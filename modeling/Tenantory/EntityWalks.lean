import Tenantory.CategoryTree
import Tenantory.PageWalks
import Tenantory.ProductRuns
import Tenantory.SupplierService
import Tenantory.VariantRuns
import Tenantory.WarehouseService

/-! Walks through the lists of categories, products, variants, warehouses and suppliers. -/

namespace Tenantory

open PagedLists UuidText

/-! ## Lists behind the cache -/

section Cached

variable {σ : Type} {list : ℕ → Svc (PaginatedResponse σ)}
  {views : ℕ → CacheAside (PaginatedResponse σ)}

theorem CacheAside.hit_setKey {α : Type} (view : CacheAside α) (w : World) (key : String)
    (value : Cached) : view.hit (w.setKey key value) =
      if key = view.key then view.cached? value else view.hit w := by
  unfold CacheAside.hit
  rw [World.cached_setKey]
  split <;> rfl

theorem CacheAside.hit_read {α β : Type} (view : CacheAside α)
    (other : CacheAside β) (w : World) :
    view.hit (other.read w) = view.hit w := by
  unfold CacheAside.hit World.cached
  rw [other.read_cache]

/-- What reads and copies have, the answers of a list behind the cache have. -/
theorem answersPages_cached (through : ∀ n w, (list (n + 1)).runs w = (views n).answer w)
    (unwrap : ∀ m n a, (views m).cached? ((views n).wrap a) = some a)
    (db : Database) (answered : ℕ → PaginatedResponse σ → Prop)
    (fresh : ∀ n ties w, w.db = db → ∃ response, (views n).fresh ties w = .ok response ∧
      answered n response)
    (shared : ∀ m n a, (views m).key = (views n).key → answered m a → answered n a) :
    AnswersPages list
      (fun _ w => w.db = db ∧ ∀ m a, (views m).hit w = some a → answered m a) answered := by
  rintro n w ⟨same, copies⟩
  rw [through]
  cases found : (views n).hit w with
  | some a =>
      have answer := CacheAside.finds_iff.mpr (.hit found)
      exact ⟨a, w, answer, copies n a found, same, copies⟩
  | none =>
      obtain ⟨response, read, good⟩ := fresh n (w.ties 0) w same
      have answer := CacheAside.finds_iff.mpr (.miss found read)
      refine ⟨response, _, answer, good, ((views n).read_db w).trans same, fun m a hit => ?_⟩
      rw [CacheAside.hit_setKey, CacheAside.hit_read] at hit
      split at hit
      · rename_i key
        rw [unwrap] at hit
        cases hit
        exact shared n m response key good
      · exact copies m a hit

/-- With keys of their own and no copy, the pages are read one after the other. -/
theorem answersPages_uncached (through : ∀ n w, (list (n + 1)).runs w = (views n).answer w)
    (ranks : ∀ n, (views n).ranks = true)
    (keys : ∀ m n, (views m).key = (views n).key → m = n) (db : Database)
    {answered : ℕ → (Uuid → ℕ) → PaginatedResponse σ → Prop}
    (fresh : ∀ n ties w, w.db = db → ∃ response, (views n).fresh ties w = .ok response ∧
      answered n ties response) (ties : ℕ → Uuid → ℕ) :
    AnswersPages list
      (fun n w => w.db = db ∧ (w.ties = fun m => ties (n + m)) ∧
        ∀ m, n ≤ m → (views m).hit w = none)
      fun n response => answered n (ties n) response := by
  rintro n w ⟨same, left, missing⟩
  rw [through]
  obtain ⟨response, read, good⟩ := fresh n (w.ties 0) w same
  have answer := CacheAside.finds_iff.mpr (.miss (missing n (Nat.le_refl n)) read)
  rw [left] at good
  refine ⟨response, _, answer, good, ((views n).read_db w).trans same, ?_, fun m later => ?_⟩
  · change ((views n).read w).ties = _
    rw [CacheAside.read, if_pos (ranks n), left]
    funext m
    exact congrArg ties (by omega)
  · rw [CacheAside.hit_setKey, CacheAside.hit_read]
    split
    · rename_i key
      have same := keys n m key
      omega
    · exact missing m (by omega)

end Cached

/-! ## Categories -/

/-- A walk through the list answers, gives the rows once in the order of the key, and has
`limit` rows on every page but the last. -/
def WalksInOrder {ρ σ : Type} (platform : Platform) (list : ℕ → Svc (PaginatedResponse σ))
    (order : SortOrder) (key : ρ → SortValue) (rows : List ρ) (entity : ρ → σ) (limit : ℕ)
    (w : World) : Prop :=
  ∃ responses sorted, ((walkPages list).runs w).1 = .ok responses ∧
    Arrangement (platform.sorts order key) rows sorted ∧
    responses.flatMap (·.data) = sorted.map entity ∧
    ∀ response ∈ responses.dropLast, response.data.length = limit

namespace CategoryService

variable {platform : Platform} {tenantId : String} {tenant : Uuid}

/-- The parent that a query asks for. -/
def askedParent : Option String → Except Err (Option Uuid)
  | some "" => .ok none
  | some parentId => some <$> uuidParam parentId
  | none => .ok none

theorem askedParent_cases {given : Option String} {out : Except Err (Option Uuid)}
    (asked : askedParent given = out) :
    given = some "" ∧ out = .ok none ∨
      (∃ text, given = some text ∧ text ≠ "" ∧ some <$> uuidParam text = out) ∨
        given = none ∧ out = .ok none := by
  subst asked
  unfold askedParent
  split
  · exact .inl ⟨rfl, rfl⟩
  · rename_i text named
    exact .inr (.inl ⟨text, rfl, named, rfl⟩)
  · exact .inr (.inr ⟨rfl, rfl⟩)

/-- The rows that match a query. What is no identifier is nobody's parent. -/
def matchingQuery (platform : Platform) (tenant : Uuid) (query : CategoryQueryDto)
    (db : Database) : List Category :=
  match askedParent query.parentId with
  | .ok parent => matching platform tenant parent query db
  | .error _ => []

def sortKey (query : CategoryQueryDto) : Category → SortValue :=
  sortColumn (query.sortBy.getD .name)

/-- The pages of a query. -/
def pages (platform : Platform) (tenantId : String) (query : CategoryQueryDto) (page : ℕ) :
    Svc (PaginatedResponse CategoryEntity) :=
  findAll platform tenantId { query with page := some page }

theorem readPage_eq (platform : Platform) (query : CategoryQueryDto) {parent : Option Uuid}
    (owned : uuidIn tenantId = some tenant) (asked : askedParent query.parentId = .ok parent)
    (childless : query.includeChildren ≠ some "true") (page limit : ℕ) (ties : Uuid → ℕ)
    (w : World) :
    readPage platform tenantId query page limit ties w =
      .ok (((platform.orderBy ties (query.sortOrder.getD .asc) (sortKey query)
        (matching platform tenant parent query w.db)).take limit).map CategoryEntity.plain,
        (matching platform tenant parent query w.db).length) := by
  have param : uuidParam tenantId = .ok tenant := by rw [uuidParam, owned]
  unfold readPage
  rw [param]
  rcases askedParent_cases asked with
    ⟨blank, same⟩ | ⟨text, chosen, named, read⟩ | ⟨absent, same⟩
  · cases same
    simp only [blank, if_neg childless]
    rfl
  · simp only [chosen, if_neg childless]
    rw [read]
    rfl
  · cases same
    simp only [absent, if_neg childless]
    rfl

theorem readPage_error (platform : Platform) (query : CategoryQueryDto) {e : Err}
    (owned : uuidIn tenantId = some tenant) (asked : askedParent query.parentId = .error e)
    (page limit : ℕ) (ties : Uuid → ℕ) (w : World) :
    readPage platform tenantId query page limit ties w = .error e := by
  have param : uuidParam tenantId = .ok tenant := by rw [uuidParam, owned]
  unfold readPage
  rw [param]
  rcases askedParent_cases asked with ⟨-, same⟩ |
    ⟨text, chosen, named, read⟩ | ⟨-, same⟩
  · cases same
  · simp only [chosen]
    rw [read]
    rfl
  · cases same

/-- Rows with different sort keys have one order. -/
theorem arrangement_unique {sorted sorted' rows : List Category} {key : Category → SortValue}
    {order : SortOrder}
    (deterministic : ∀ s t, platform.collate s t = true → platform.collate t s = true → s = t)
    (distinct : (rows.map key).Nodup)
    (arrangement : Arrangement (platform.sorts order key) rows sorted)
    (arrangement' : Arrangement (platform.sorts order key) rows sorted') : sorted = sorted' := by
  refine (arrangement.perm.trans arrangement'.perm.symm).eq_of_pairwise ?_ arrangement.sorted
    arrangement'.sorted
  intro a b ha hb le le'
  have same : key a = key b := by
    cases order
    · exact Platform.le_antisymm deterministic le le'
    · exact Platform.le_antisymm deterministic le' le
  exact List.inj_on_of_nodup_map distinct (arrangement.perm.subset ha) (arrangement'.perm.subset hb)
    same

theorem nodup_plain {rows : List Category} (ids : (rows.map Category.id).Nodup) :
    (rows.map CategoryEntity.plain).Nodup := by
  refine List.Nodup.of_map (fun entity : CategoryEntity => entity.id) ?_
  rw [List.map_map]
  exact ids

theorem nodup_matching (platform : Platform) (tenant : Uuid) (parent : Option Uuid)
    (query : CategoryQueryDto) (db : Database) :
    ((matching platform tenant parent query db).map Category.id).Nodup :=
  nodup_ids _ _

/-- A walk with a parent that is no identifier fails. -/
theorem walk_error (platform : Platform) {query : CategoryQueryDto} {e : Err}
    (owned : uuidIn tenantId = some tenant)
    (asked : askedParent query.parentId = .error e) (w : World) (uncached : w.cache = []) :
    ((walkPages (pages platform tenantId query)).runs w).1 = .error e := by
  have missing : (pageView platform tenantId { query with page := some 1 }).hit w = none := by
    unfold CacheAside.hit World.cached
    rw [uncached]
    rfl
  have read : (pageView platform tenantId { query with page := some 1 }).fresh (w.ties 0) w =
      .error e := by
    have failed := readPage_error platform { query with page := some 1 }
      owned asked 1 (query.limit.getD 10) (w.ties 0) w
    change (readPage platform tenantId { query with page := some 1 } 1 (query.limit.getD 10)
      (w.ties 0) w).map _ = _
    rw [failed]
    rfl
  rw [walkPages, Svc.runs_bind, pages, runs_findAll]
  unfold CacheAside.answer
  rw [missing, read]
  rfl

section Pages

variable {query : CategoryQueryDto} {parent : Option Uuid} {limit : ℕ}
  (owned : uuidIn tenantId = some tenant) (asked : askedParent query.parentId = .ok parent)
  (childless : query.includeChildren ≠ some "true") (limited : query.limit = some limit)

include owned asked childless limited

/-- Every page shows the first rows. -/
theorem fresh_page (platform : Platform) (n : ℕ) (ties : Uuid → ℕ) (w : World) :
    ∃ response,
      (pageView platform tenantId { query with page := some (n + 1) }).fresh ties w =
        .ok response ∧
        response.data = ((platform.orderBy ties (query.sortOrder.getD .asc) (sortKey query)
          (matching platform tenant parent query w.db)).take limit).map CategoryEntity.plain ∧
        response.pageMeta.totalPages =
          pageCount (matching platform tenant parent query w.db).length limit := by
  obtain ⟨_, _, search, parentId, includeChildren, sortBy, sortOrder⟩ := query
  cases limited
  let query : CategoryQueryDto :=
    ⟨some (n + 1), some limit, search, parentId, includeChildren, sortBy, sortOrder⟩
  have read := readPage_eq platform query owned asked childless (n + 1)
    limit ties w
  refine ⟨pageOf query (((platform.orderBy ties (sortOrder.getD .asc) (sortKey query)
    (matching platform tenant parent query w.db)).take limit).map CategoryEntity.plain,
      (matching platform tenant parent query w.db).length), ?_, rfl, rfl⟩
  change (readPage platform tenantId query (n + 1) limit ties w).map (pageOf query) = _
  rw [read]
  rfl

/-- The answers to a walk through categories with different sort keys. -/
theorem walk_eq (ordered : platform.Ordered)
    (deterministic : ∀ s t, platform.collate s t = true → platform.collate t s = true → s = t)
    {w : World} (uncached : w.cache = [])
    (distinct : ((matching platform tenant parent query w.db).map (sortKey query)).Nodup) :
    ∃ responses sorted, ((walkPages (pages platform tenantId query)).runs w).1 = .ok responses ∧
      Arrangement (platform.sorts (query.sortOrder.getD .asc) (sortKey query))
        (matching platform tenant parent query w.db) sorted ∧
      List.Forall₂ (fun _ response => response.data =
        (sorted.take limit).map CategoryEntity.plain)
        (List.range (max 1 (pageCount sorted.length limit))) responses := by
  let rows := matching platform tenant parent query w.db
  let sorted := platform.orderBy (fun _ => 0) (query.sortOrder.getD .asc) (sortKey query) rows
  have arrangement := Platform.arrangement_orderBy ordered (fun _ => 0) (query.sortOrder.getD .asc)
    (sortKey query) rows
  have through : ∀ n w, (pages platform tenantId query (n + 1)).runs w =
      (pageView platform tenantId { query with page := some (n + 1) }).answer w :=
    fun n w => runs_findAll platform tenantId { query with page := some (n + 1) } w
  have answers := answersPages_cached through (fun _ _ _ => rfl) w.db
    (fun _ response => response.data = (sorted.take limit).map CategoryEntity.plain ∧
      response.pageMeta.totalPages = pageCount rows.length limit)
    (fun n ties w' same => by
      obtain ⟨response, read, data, total⟩ :=
        fresh_page owned asked childless limited platform n ties w'
      rw [same] at data total
      have one := arrangement_unique deterministic distinct
        (Platform.arrangement_orderBy ordered ties _ _ rows) arrangement
      exact ⟨response, read, data.trans (congrArg _ (congrArg _ one)), total⟩)
    fun _ _ _ _ same => same
  have copies : ∀ m a, (pageView platform tenantId { query with page := some (m + 1) }).hit w =
      some a → a.data = (sorted.take limit).map CategoryEntity.plain ∧
        a.pageMeta.totalPages = pageCount rows.length limit := by
    intro m a hit
    unfold CacheAside.hit World.cached at hit
    rw [uncached] at hit
    cases hit
  obtain ⟨responses, run, all⟩ := answers.walk (pageCount rows.length limit)
    (fun _ shown => shown.2) ⟨rfl, copies⟩
  refine ⟨responses, sorted, run, arrangement, ?_⟩
  rw [arrangement.perm.length_eq]
  exact all.imp fun _ _ shown => shown.1

end Pages

end CategoryService

/-- A walk gives every matching category once, in order and on full pages, if and only if
the parent text can be read and the matching categories fit on one page. -/
theorem category_walk_iff_one_page {platform : Platform} (ordered : platform.Ordered)
    (deterministic : ∀ s t, platform.collate s t = true → platform.collate t s = true → s = t)
    {tenantId : String} {tenant : Uuid} (owned : uuidIn tenantId = some tenant)
    (query : CategoryQueryDto) {limit : ℕ} (limited : query.limit = some limit)
    (positive : 0 < limit) (childless : query.includeChildren ≠ some "true") (w : World)
    (uncached : w.cache = [])
    (distinct : ((CategoryService.matchingQuery platform tenant query w.db).map
      (CategoryService.sortKey query)).Nodup) :
    WalksInOrder platform (CategoryService.pages platform tenantId query)
        (query.sortOrder.getD .asc) (CategoryService.sortKey query)
        (CategoryService.matchingQuery platform tenant query w.db) CategoryEntity.plain limit w ↔
      ∃ parent, CategoryService.askedParent query.parentId = .ok parent ∧
        (CategoryService.matching platform tenant parent query w.db).length ≤ limit := by
  unfold CategoryService.matchingQuery at distinct ⊢
  cases asked : CategoryService.askedParent query.parentId with
  | error e =>
      constructor
      · rintro ⟨responses, -, run, -⟩
        have failed := CategoryService.walk_error platform owned asked w uncached
        cases failed.symm.trans run
      · rintro ⟨parent, read, -⟩
        cases read
  | ok parent =>
      rw [asked] at distinct
      dsimp only at distinct ⊢
      obtain ⟨responses, sorted, run, arrangement, all⟩ := CategoryService.walk_eq owned asked
        childless limited ordered deterministic uncached distinct
      have count := arrangement.perm.length_eq
      constructor
      · rintro ⟨responses', sorted', run', arrangement', data, -⟩
        refine ⟨parent, rfl, ?_⟩
        by_contra many
        cases run.symm.trans run'
        cases CategoryService.arrangement_unique deterministic distinct arrangement arrangement'
        -- the second page shows the rows of the first
        have pages : 1 < pageCount sorted.length limit := by
          rw [lt_pageCount_iff positive, Nat.one_mul, count]
          exact not_le.mp many
        obtain ⟨rest, range⟩ : ∃ rest, List.range (max 1 (pageCount sorted.length limit)) =
            0 :: 1 :: rest := by
          obtain ⟨k, enough⟩ := Nat.exists_eq_add_of_lt pages
          refine ⟨List.range' 2 k, ?_⟩
          rw [show max 1 (pageCount sorted.length limit) = k + 2 by omega, List.range_eq_range',
            List.range'_succ, List.range'_succ]
        rw [range] at all
        obtain ⟨first, second⟩ : ∃ others, sorted.map CategoryEntity.plain =
            (sorted.take limit).map CategoryEntity.plain ++
              ((sorted.take limit).map CategoryEntity.plain ++ others) := by
          cases all with
          | cons one all =>
              cases all with
              | cons two all =>
                  rw [List.flatMap_cons, List.flatMap_cons, one, two] at data
                  exact ⟨_, data.symm⟩
        have nodup := CategoryService.nodup_plain ((arrangement.perm.map Category.id).nodup_iff.mpr
          (CategoryService.nodup_matching platform tenant parent query w.db))
        rw [second] at nodup
        have apart := (List.nodup_append.mp nodup).2.2
        obtain ⟨row, rows, shape⟩ := List.exists_cons_of_length_pos
          (l := (sorted.take limit).map CategoryEntity.plain) (by simp; omega)
        have mem : row ∈ (sorted.take limit).map CategoryEntity.plain := by
          rw [shape]
          exact List.mem_cons_self
        exact apart row mem row (List.mem_append_left _ mem) rfl
      · rintro ⟨parent', read, few⟩
        cases read
        have one : max 1 (pageCount sorted.length limit) = 1 := by
          have least : pageCount sorted.length limit ≤ 1 := by
            rw [pageCount_le_iff positive, Nat.one_mul, count]
            exact few
          omega
        rw [one] at all
        cases all with
        | cons data rest =>
            cases rest
            refine ⟨_, sorted, run, arrangement, ?_, fun _ mem => by cases mem⟩
            rw [List.flatMap_singleton, data, List.take_of_length_le (count.trans_le few)]

section Nested

open SampleShop

namespace SampleShop

def categoriesByName : CategoryQueryDto :=
  ⟨none, some 1, none, none, none, some .name, some .asc⟩

end SampleShop

/-- Two categories, one on a page: both pages show the first. -/
theorem category_walk_repeats :
    (world nested).cache = [] ∧
      ((CategoryService.matchingQuery plainText tenantId categoriesByName nested).map
        (CategoryService.sortKey categoriesByName)).Nodup ∧
      ¬ WalksInOrder plainText (CategoryService.pages plainText (uuidOut tenantId)
        categoriesByName)
        .asc (CategoryService.sortKey categoriesByName)
        (CategoryService.matchingQuery plainText tenantId categoriesByName nested)
        CategoryEntity.plain 1 (world nested) := by
  refine ⟨rfl, by decide, ?_⟩
  rintro ⟨responses, sorted, run, arrangement, data, -⟩
  have shown : ((walkPages (CategoryService.pages plainText (uuidOut tenantId)
      categoriesByName)).runs (world nested)).1.map
        (fun responses => (responses.flatMap (·.data)).map (·.id)) = .ok [0xcb, 0xcb] := by
    decide
  rw [run] at shown
  have ids : sorted.map Category.id = [0xcb, 0xcb] := by
    have same := Except.ok.inj shown
    dsimp only at same
    rw [data, List.map_map] at same
    exact same
  have nodup := (arrangement.perm.map Category.id).nodup_iff.mpr
    (CategoryService.nodup_matching plainText tenantId none categoriesByName nested)
  rw [ids] at nodup
  exact absurd nodup (by decide)

/-- Three categories on a page of three. -/
theorem category_walk_iff_one_page_shop :
    WalksInOrder plainText (CategoryService.pages plainText (uuidOut tenantId)
        { categoriesByName with limit := some 3 })
      .asc (CategoryService.sortKey categoriesByName)
      (CategoryService.matchingQuery plainText tenantId categoriesByName departments)
      CategoryEntity.plain 3 (world departments) :=
  (category_walk_iff_one_page plainText_ordered plainText_deterministic (uuidIn_uuidOut tenantId)
    { categoriesByName with limit := some 3 } rfl (by decide) (by decide) (world departments) rfl
    (by decide)).mpr ⟨none, rfl, by decide⟩

end Nested

/-! ## Products -/

namespace ProductService

variable {platform : Platform} {tenantId : String} {tenant : Uuid} {rows : List Product}

/-- The category that a query asks for. -/
def askedCategory : Option String → Except Err (Option Uuid)
  | some "" => .ok none
  | some categoryId => some <$> uuidParam categoryId
  | none => .ok none

theorem askedCategory_cases {given : Option String} {out : Except Err (Option Uuid)}
    (asked : askedCategory given = out) :
    given = some "" ∧ out = .ok none ∨
      (∃ text, given = some text ∧ text ≠ "" ∧ some <$> uuidParam text = out) ∨
        given = none ∧ out = .ok none := by
  subst asked
  unfold askedCategory
  split
  · exact .inl ⟨rfl, rfl⟩
  · rename_i text named
    exact .inr (.inl ⟨text, rfl, named, rfl⟩)
  · exact .inr (.inr ⟨rfl, rfl⟩)

/-- The rows of the list's WHERE clause. -/
def matching (platform : Platform) (tenant : Uuid) (category : Option Uuid)
    (query : ProductQueryDto) (db : Database) : List Product :=
  db.products.select fun p =>
    p.tenantId == tenant && p.live &&
      (query.search.all fun search =>
        search == "" || platform.ilike ("%" ++ search ++ "%") p.name) &&
      (category.all fun category => p.categoryId == category) &&
      query.isActive.all fun isActive => p.isActive == (isActive == "true")

def sortKey (query : ProductQueryDto) : Product → SortValue :=
  (query.sortBy.map sortColumn).getD unordered

theorem readPage_eq (platform : Platform) (query : ProductQueryDto) {category : Option Uuid}
    (owned : uuidIn tenantId = some tenant) (asked : askedCategory query.categoryId = .ok category)
    (skip limit : ℕ) (ties : Uuid → ℕ) (w : World) :
    readPage platform tenantId query skip limit ties w =
      .ok ((window skip (some limit) (platform.orderBy ties (query.sortOrder.getD .asc)
        (sortKey query) (matching platform tenant category query w.db))).map ProductEntity.plain,
        (matching platform tenant category query w.db).length) := by
  have param : uuidParam tenantId = .ok tenant := by rw [uuidParam, owned]
  unfold readPage
  rw [param]
  rcases askedCategory_cases asked with
    ⟨blank, same⟩ | ⟨text, chosen, named, read⟩ | ⟨absent, same⟩
  · cases same
    simp only [blank]
    rfl
  · simp only [chosen]
    rw [read]
    rfl
  · cases same
    simp only [absent]
    rfl

/-- The pages of a query. -/
def pages (platform : Platform) (tenantId : String) (query : ProductQueryDto) (page : ℕ) :
    Svc (PaginatedResponse ProductEntity) :=
  findAll platform tenantId { query with page := some page }

/-- What the cache holds of the list is what a read of these tables can give. -/
def PagesCurrent (platform : Platform) (tenantId : String) (query : ProductQueryDto) (w : World) :
    Prop :=
  ∀ page a, (pageView platform tenantId { query with page := some page }).hit w = some a →
    (pageView platform tenantId { query with page := some page }).Gives w.db a

theorem nodup_plain (ids : (rows.map Product.id).Nodup) : (rows.map ProductEntity.plain).Nodup := by
  refine List.Nodup.of_map ProductEntity.id ?_
  rw [List.map_map]
  exact ids

theorem nodup_matching (platform : Platform) (tenant : Uuid) (category : Option Uuid)
    (query : ProductQueryDto) (db : Database) :
    ((matching platform tenant category query db).map Product.id).Nodup :=
  nodup_ids _ _

section Pages

variable {query : ProductQueryDto} {category : Option Uuid} {limit : ℕ}
  (owned : uuidIn tenantId = some tenant) (asked : askedCategory query.categoryId = .ok category)
  (limited : query.limit = some limit)

include owned asked limited

theorem fresh_page (platform : Platform) (n : ℕ) (ties : Uuid → ℕ) (w : World) :
    ∃ response,
      (pageView platform tenantId { query with page := some (n + 1) }).fresh ties w =
        .ok response ∧
        ShowsPage platform (query.sortOrder.getD .asc) (sortKey query)
          (matching platform tenant category query w.db) ProductEntity.plain limit n ties
            response := by
  obtain ⟨_, _, search, categoryId, isActive, sortBy, sortOrder⟩ := query
  cases limited
  let query : ProductQueryDto :=
    ⟨some (n + 1), some limit, search, categoryId, isActive, sortBy, sortOrder⟩
  have read := readPage_eq platform query owned asked (n * limit) limit
    ties w
  refine ⟨pageOf query ((PagedLists.page limit (platform.orderBy ties (sortOrder.getD .asc)
    (sortKey query) (matching platform tenant category query w.db)) n).map ProductEntity.plain,
      (matching platform tenant category query w.db).length), ?_, rfl, rfl⟩
  change (readPage platform tenantId query ((n + 1 - 1) * limit) limit ties w).map
    (pageOf query) = _
  rw [Nat.add_sub_cancel, read]
  rfl

/-- Walks through the products give every matching product once if and only if no page
begins between products with equal sort keys. -/
theorem lossless_iff (ordered : platform.Ordered)
    (digests : ∀ page page' : ℕ, platform.digest { query with page := some page }.toJson =
      platform.digest { query with page := some page' }.toJson → page = page')
    (positive : 0 < limit) (db : Database) :
    (∀ w, w.db = db → PagesCurrent platform tenantId query w →
      Lossless (pages platform tenantId query)
        ((matching platform tenant category query db).map ProductEntity.plain) w) ↔
      Apart (platform.sorts (query.sortOrder.getD .asc) (sortKey query)) limit
        (matching platform tenant category query db) := by
  have ids := nodup_matching platform tenant category query db
  have through : ∀ n w, (pages platform tenantId query (n + 1)).runs w =
      (pageView platform tenantId { query with page := some (n + 1) }).answer w :=
    fun n w => runs_findAll platform tenantId { query with page := some (n + 1) } w
  have keys : ∀ m n, (pageView platform tenantId { query with page := some (m + 1) }).key =
      (pageView platform tenantId { query with page := some (n + 1) }).key → m = n := by
    intro m n same
    exact Nat.succ.inj (digests _ _ (String.append_right_inj _ |>.mp same))
  have answers := answersPages_cached through (fun _ _ _ => rfl) db
  have copies : ∀ w, w.db = db ∧ PagesCurrent platform tenantId query w →
      ∃ state : ℕ → World → Prop, state 0 w ∧
        AnswersPages (pages platform tenantId query) state fun n response => ∃ ties,
          ShowsPage platform (query.sortOrder.getD .asc) (sortKey query)
            (matching platform tenant category query db) ProductEntity.plain limit n ties
            response := by
    rintro w ⟨same, current⟩
    refine ⟨_, ?_, answers _ ?_ fun m n a key good => keys m n key ▸ good⟩
    · refine ⟨same, fun m a hit => ?_⟩
      obtain ⟨ties, w', same', read⟩ := current (m + 1) a hit
      obtain ⟨response, read', shows⟩ := fresh_page owned asked limited platform m ties w'
      cases read.symm.trans read'
      rw [same', same] at shows
      exact ⟨ties, shows⟩
    · intro n ties w same
      obtain ⟨response, read, shows⟩ := fresh_page owned asked limited platform n ties w
      rw [same] at shows
      exact ⟨response, read, ties, shows⟩
  have ranked : ∀ ranks : ℕ → Uuid → ℕ, ∃ w,
    (w.db = db ∧ PagesCurrent platform tenantId query w) ∧
      ∃ state : ℕ → World → Prop, state 0 w ∧
        AnswersPages (pages platform tenantId query) state fun n response =>
          ShowsPage platform (query.sortOrder.getD .asc) (sortKey query)
            (matching platform tenant category query db) ProductEntity.plain limit n (ranks n)
            response := by
    intro ranks
    refine ⟨db.ranked ranks, ⟨rfl, fun _ _ hit => by cases hit⟩, _, ?_,
      answersPages_uncached through (fun _ => rfl) keys db ?_ ranks⟩
    · refine ⟨rfl, ?_, fun _ _ => rfl⟩
      simp [Database.ranked]
    · intro n ties w same
      obtain ⟨response, read, shows⟩ := fresh_page owned asked limited platform n ties w
      rw [same] at shows
      exact ⟨response, read, shows⟩
  have both := lossless_iff_apart ordered ids (nodup_plain ids) positive copies ranked
  simpa only [and_imp] using both

end Pages

end ProductService

/-! ## Variants, warehouses and suppliers -/

namespace VariantService

variable {platform : Platform} {tenantId productId : String} {tenant product : Uuid}

/-- The rows of the list's WHERE clause. -/
def matching (platform : Platform) (tenant product : Uuid) (query : VariantQueryDto)
    (db : Database) : List ProductVariant :=
  db.variants.select fun v =>
    v.tenantId == tenant && v.productId == product && v.live &&
      (query.search.all fun search =>
        search == "" || platform.ilike ("%" ++ search ++ "%") v.sku) &&
      (query.minPrice.all fun minPrice => minPrice ≤ v.price) &&
      query.maxPrice.all fun maxPrice => v.price ≤ maxPrice

def sortKey (query : VariantQueryDto) : ProductVariant → SortValue :=
  (query.sortBy.map sortColumn).getD unordered

/-- The pages of a query. -/
def pages (platform : Platform) (tenantId productId : String) (query : VariantQueryDto)
    (page : ℕ) : Svc (PaginatedResponse ProductVariant) :=
  findAll platform tenantId productId { query with page := some page }

theorem readPage_eq (platform : Platform) (query : VariantQueryDto)
    (owned : uuidIn tenantId = some tenant)
    (named : uuidIn productId = some product) (skip limit : ℕ) (ties : Uuid → ℕ) (w : World) :
    readPage platform tenantId productId query skip limit ties w =
      .ok (window skip (some limit) (platform.orderBy ties (query.sortOrder.getD .asc)
        (sortKey query) (matching platform tenant product query w.db)),
        (matching platform tenant product query w.db).length) := by
  unfold readPage uuidParam
  rw [owned, named]
  rfl

/-- Walks through the variants of a product that is shown. -/
theorem lossless_iff (ordered : platform.Ordered) (owned : uuidIn tenantId = some tenant)
    (named : uuidIn productId = some product) {query : VariantQueryDto} {limit : ℕ}
    (limited : query.limit = some limit) (positive : 0 < limit) {db : Database} {row : Product}
    (shown : (db.products.find? fun p =>
      p.id == product && p.tenantId == tenant && db.liveTenant tenant && p.live) = some row) :
    (∀ w, w.db = db → Lossless (pages platform tenantId productId query)
      (matching platform tenant product query db) w) ↔
      Apart (platform.sorts (query.sortOrder.getD .asc) (sortKey query)) limit
        (matching platform tenant product query db) := by
  refine lossless_iff_of_rows ordered (nodup_ids _ _) positive (buildLink productId limit)
    fun n w same => ?_
  obtain ⟨_, _, search, minPrice, maxPrice, sortBy, sortOrder⟩ := query
  cases limited
  cases same
  have found : readProduct tenantId productId w = .ok (some row) := by
    unfold readProduct uuidParam
    rw [owned, named]
    exact congrArg Except.ok shown
  have read := readPage_eq platform
    ⟨some (n + 1), some limit, search, minPrice, maxPrice, sortBy, sortOrder⟩ owned named
      (n * limit) limit (w.ties 0) w
  simp only [pages, findAll, Svc.runs_bind, runs_findProduct, found, orMissing, Svc.follow_ok,
    Svc.runs_listing, Option.getD_some, Nat.add_sub_cancel, read]
  rfl

end VariantService

namespace WarehouseService

variable {platform : Platform} {tenantId : String} {tenant : Uuid}

/-- The rows of the list's WHERE clause. -/
def matching (platform : Platform) (tenant : Uuid) (query : WarehouseQueryDto) (db : Database) :
    List Warehouse :=
  db.warehouses.select fun h =>
    h.tenantId == tenant && h.live &&
      query.search.all fun search =>
        search == "" || platform.ilike ("%" ++ search ++ "%") h.name

def sortKey (query : WarehouseQueryDto) : Warehouse → SortValue :=
  (query.sortBy.map sortColumn).getD unordered

/-- The pages of a query. -/
def pages (platform : Platform) (tenantId : String) (query : WarehouseQueryDto) (page : ℕ) :
    Svc (PaginatedResponse Warehouse) :=
  findAll platform tenantId { query with page := some page }

theorem readPage_eq (platform : Platform) (query : WarehouseQueryDto)
    (owned : uuidIn tenantId = some tenant)
    (skip : ℕ) (ties : Uuid → ℕ) (w : World) :
    readPage platform tenantId query skip ties w =
      .ok (window skip query.limit (platform.orderBy ties (query.sortOrder.getD .asc)
        (sortKey query) (matching platform tenant query w.db)),
        (matching platform tenant query w.db).length) := by
  unfold readPage uuidParam
  rw [owned]
  rfl

theorem lossless_iff (ordered : platform.Ordered) (owned : uuidIn tenantId = some tenant)
    {query : WarehouseQueryDto} {limit : ℕ} (limited : query.limit = some limit)
    (positive : 0 < limit) (db : Database) :
    (∀ w, w.db = db →
      Lossless (pages platform tenantId query) (matching platform tenant query db) w) ↔
      Apart (platform.sorts (query.sortOrder.getD .asc) (sortKey query)) limit
        (matching platform tenant query db) := by
  refine lossless_iff_of_rows ordered (nodup_ids _ _) positive (buildLink (some limit))
    fun n w same => ?_
  obtain ⟨_, _, search, sortBy, sortOrder⟩ := query
  cases limited
  cases same
  have read := readPage_eq platform
    ⟨some (n + 1), some limit, search, sortBy, sortOrder⟩ owned (n * limit) (w.ties 0) w
  simp only [pages, findAll, Svc.runs_bind, Svc.follow_ok, Svc.runs_listing, Option.getD_some,
    Nat.add_sub_cancel, read]
  rfl

end WarehouseService

namespace SupplierService

variable {platform : Platform} {tenantId : String} {tenant : Uuid}

/-- The rows of the list's WHERE clause. -/
def matching (platform : Platform) (tenant : Uuid) (query : SupplierQueryDto) (db : Database) :
    List Supplier :=
  db.suppliers.select fun s =>
    s.tenantId == tenant && s.live &&
      query.search.all fun search =>
        search == "" || platform.ilike ("%" ++ search ++ "%") s.companyName

def sortKey (query : SupplierQueryDto) : Supplier → SortValue :=
  (query.sortBy.map sortColumn).getD unordered

/-- The pages of a query. -/
def pages (platform : Platform) (tenantId : String) (query : SupplierQueryDto) (page : ℕ) :
    Svc (PaginatedResponse Supplier) :=
  findAll platform tenantId { query with page := some page }

theorem readPage_eq (platform : Platform) (query : SupplierQueryDto)
    (owned : uuidIn tenantId = some tenant)
    (skip : ℕ) (ties : Uuid → ℕ) (w : World) :
    readPage platform tenantId query skip ties w =
      .ok (window skip query.limit (platform.orderBy ties (query.sortOrder.getD .asc)
        (sortKey query) (matching platform tenant query w.db)),
        (matching platform tenant query w.db).length) := by
  unfold readPage uuidParam
  rw [owned]
  rfl

theorem lossless_iff (ordered : platform.Ordered) (owned : uuidIn tenantId = some tenant)
    {query : SupplierQueryDto} {limit : ℕ} (limited : query.limit = some limit)
    (positive : 0 < limit) (db : Database) :
    (∀ w, w.db = db →
      Lossless (pages platform tenantId query) (matching platform tenant query db) w) ↔
      Apart (platform.sorts (query.sortOrder.getD .asc) (sortKey query)) limit
        (matching platform tenant query db) := by
  refine lossless_iff_of_rows ordered (nodup_ids _ _) positive (buildLink limit)
    fun n w same => ?_
  obtain ⟨_, _, search, sortBy, sortOrder⟩ := query
  cases limited
  cases same
  have read := readPage_eq platform
    ⟨some (n + 1), some limit, search, sortBy, sortOrder⟩ owned (n * limit) (w.ties 0) w
  simp only [pages, findAll, Svc.runs_bind, Svc.follow_ok, Svc.runs_listing, Option.getD_some,
    Nat.add_sub_cancel, read]
  rfl

end SupplierService

/-! ## Ties -/

/-- Walks through the four lists give every matching row once, however the server ranks
rows with equal sort keys, if and only if no page begins between two such rows. -/
theorem walks_lossless_iff_apart {platform : Platform} (ordered : platform.Ordered)
    {tenantId : String} {tenant : Uuid} (owned : uuidIn tenantId = some tenant) (db : Database)
    {limit : ℕ} (positive : 0 < limit) :
    (∀ query category, query.limit = some limit →
      ProductService.askedCategory query.categoryId = .ok category →
      (∀ page page' : ℕ, platform.digest { query with page := some page :
        ProductQueryDto }.toJson =
        platform.digest { query with page := some page' : ProductQueryDto }.toJson →
          page = page') →
      ((∀ w, w.db = db → ProductService.PagesCurrent platform tenantId query w →
        Lossless (ProductService.pages platform tenantId query)
          ((ProductService.matching platform tenant category query db).map
            ProductEntity.plain) w) ↔
        Apart (platform.sorts (query.sortOrder.getD .asc) (ProductService.sortKey query)) limit
          (ProductService.matching platform tenant category query db))) ∧
    (∀ productId product row, uuidIn productId = some product →
      (db.products.find? fun p =>
        p.id == product && p.tenantId == tenant && db.liveTenant tenant && p.live) = some row →
      ∀ query : VariantQueryDto, query.limit = some limit →
      ((∀ w, w.db = db → Lossless (VariantService.pages platform tenantId productId query)
        (VariantService.matching platform tenant product query db) w) ↔
        Apart (platform.sorts (query.sortOrder.getD .asc) (VariantService.sortKey query)) limit
          (VariantService.matching platform tenant product query db))) ∧
    (∀ query : WarehouseQueryDto, query.limit = some limit →
      ((∀ w, w.db = db → Lossless (WarehouseService.pages platform tenantId query)
        (WarehouseService.matching platform tenant query db) w) ↔
        Apart (platform.sorts (query.sortOrder.getD .asc) (WarehouseService.sortKey query)) limit
          (WarehouseService.matching platform tenant query db))) ∧
    ∀ query : SupplierQueryDto, query.limit = some limit →
      ((∀ w, w.db = db → Lossless (SupplierService.pages platform tenantId query)
        (SupplierService.matching platform tenant query db) w) ↔
        Apart (platform.sorts (query.sortOrder.getD .asc) (SupplierService.sortKey query)) limit
          (SupplierService.matching platform tenant query db)) := by
  refine ⟨?_, ?_, ?_, ?_⟩
  · intro query category limited asked digests
    exact ProductService.lossless_iff owned asked limited ordered digests positive db
  · intro productId product row named shown query limited
    exact VariantService.lossless_iff ordered owned named limited positive shown
  · intro query limited
    exact WarehouseService.lossless_iff ordered owned limited positive db
  · intro query limited
    exact SupplierService.lossless_iff ordered owned limited positive db

section Depot

open SampleShop

namespace SampleShop

def productsByName : ProductQueryDto :=
  ⟨none, some 1, none, none, none, some .name, some .asc⟩

def variantsByPrice : VariantQueryDto :=
  ⟨none, some 1, none, none, none, some .price, some .asc⟩

def warehousesByDate : WarehouseQueryDto := ⟨none, some 1, none, some .createdAt, some .desc⟩

def suppliersByLeadTime : SupplierQueryDto :=
  ⟨none, some 1, none, some .leadTimeDays, some .asc⟩

theorem paging_digests (query : ProductQueryDto) (page page' : ℕ)
    (h : paging.digest { query with page := some page }.toJson =
      paging.digest { query with page := some page' }.toJson) : page = page' :=
  pageDigest_inj h

/-- Two warehouses of one date. -/
def twoWarehouses : Database :=
  { unstocked with warehouses := ⟨[warehouse,
    ⟨0x3f, tenantId, "Spare", none, 0, 0, none⟩], by decide⟩ }

end SampleShop

/-- The server ranks two warehouses of one date differently for the two pages, and both
pages show the same warehouse. -/
theorem warehouse_walk_repeats :
    ¬ Lossless (WarehouseService.pages plainText (uuidOut tenantId) warehousesByDate)
      (WarehouseService.matching plainText tenantId warehousesByDate twoWarehouses)
      { world twoWarehouses with ties := changedRanks warehouseId 1 } := by
  rintro ⟨responses, run, perm⟩
  have shown : ((walkPages (WarehouseService.pages plainText (uuidOut tenantId)
      warehousesByDate)).runs { world twoWarehouses with ties := changedRanks warehouseId 1 }).1.map
        (fun responses => (responses.flatMap (·.data)).map (·.id)) =
      .ok [warehouseId, warehouseId] := by
    decide
  rw [run] at shown
  have ids := Except.ok.inj shown
  dsimp only at ids
  have nodup := (perm.map Warehouse.id).nodup_iff.mpr (nodup_ids twoWarehouses.warehouses _)
  rw [ids] at nodup
  exact absurd nodup (by decide)

namespace SampleShop

def delivering (id : Uuid) (name : String) (leadTimeDays : Option ℤ) : Supplier :=
  ⟨id, tenantId, name, none, none, none, leadTimeDays, 0, 0, none⟩

/-- Three of each, with sort keys of their own. -/
def threeOfEach : Database :=
  { unstocked with
    products := ⟨[product, { product with id := 0xb1, name := "Polo", skuPrefix := "POL" },
      { product with id := 0xb2, name := "Tee", skuPrefix := "TEE" }], by decide⟩
    variants := ⟨[variant, { variant with id := 0x5b, sku := "TSH-RED-M", price := 18 },
      { variant with id := 0x5c, sku := "TSH-RED-L", price := 22 }], by decide⟩
    warehouses := ⟨[warehouse, { warehouse with id := 0x3f, name := "Spare", createdAt := 1 },
      { warehouse with id := 0x40, name := "North", createdAt := 2 }], by decide⟩
    suppliers := ⟨[delivering 0x91 "Weavers" (some 5), delivering 0x92 "Dyers" (some 3),
      delivering 0x93 "Spinners" none], by decide⟩ }

end SampleShop

/-- Three pages of each list. -/
theorem walks_lossless_iff_apart_depot :
    (∀ w, w.db = threeOfEach →
      ProductService.PagesCurrent paging (uuidOut tenantId) productsByName w →
      Lossless (ProductService.pages paging (uuidOut tenantId) productsByName)
        ((ProductService.matching paging tenantId none productsByName threeOfEach).map
          ProductEntity.plain) w) ∧
    (∀ w, w.db = threeOfEach →
      Lossless (VariantService.pages paging (uuidOut tenantId) (uuidOut productId) variantsByPrice)
        (VariantService.matching paging tenantId productId variantsByPrice threeOfEach) w) ∧
    (∀ w, w.db = threeOfEach →
      Lossless (WarehouseService.pages paging (uuidOut tenantId) warehousesByDate)
        (WarehouseService.matching paging tenantId warehousesByDate threeOfEach) w) ∧
    ∀ w, w.db = threeOfEach →
      Lossless (SupplierService.pages paging (uuidOut tenantId) suppliersByLeadTime)
        (SupplierService.matching paging tenantId suppliersByLeadTime threeOfEach) w := by
  obtain ⟨products, variants, warehouses, suppliers⟩ := walks_lossless_iff_apart paging_ordered
    (uuidIn_uuidOut tenantId) threeOfEach (show 0 < 1 by decide)
  refine ⟨?_, ?_, ?_, ?_⟩
  · exact (products productsByName none rfl rfl (paging_digests productsByName)).mpr
      (apart_of_distinct (by decide +kernel))
  · exact (variants (uuidOut productId) productId product (uuidIn_uuidOut productId) (by decide)
      variantsByPrice rfl).mpr (apart_of_distinct (by decide +kernel))
  · exact (warehouses warehousesByDate rfl).mpr (apart_of_distinct (by decide +kernel))
  · exact (suppliers suppliersByLeadTime rfl).mpr (apart_of_distinct (by decide +kernel))

end Depot

end Tenantory
