import Tenantory.EntityWalks
import Tenantory.CatalogCache
import Tenantory.CacheCoherence
import Tenantory.WildcardText

/-! Which rows the list functions select: the number that a response counts, and the rows
that its page is cut from. -/

namespace Tenantory

open UuidText

/-! ## Selections -/

/-- The answer counts these rows, and shows the page that is cut from them in some order. -/
def Selects {ρ σ : Type} (answer : Except Err (PaginatedResponse σ)) (cut : List ρ → List σ)
    (rows : List ρ) : Prop :=
  ∃ response sorted, answer = .ok response ∧ response.pageMeta.totalItems = rows.length ∧
    sorted.Perm rows ∧ response.data = cut sorted

/-- Two selections of one answer have the same number of rows. -/
theorem Selects.length_eq {ρ ρ' σ : Type} {answer : Except Err (PaginatedResponse σ)}
    {cut : List ρ → List σ} {cut' : List ρ' → List σ} {rows : List ρ} {rows' : List ρ'}
    (selects : Selects answer cut rows) (selects' : Selects answer cut' rows') :
    rows.length = rows'.length := by
  obtain ⟨response, -, eq, total, -⟩ := selects
  obtain ⟨response', -, eq', total', -⟩ := selects'
  cases eq.symm.trans eq'
  exact total.symm.trans total'

theorem mem_of_mem_window {ρ : Type} {skip : ℕ} {take : Option ℕ} {rows : List ρ} {r : ρ}
    (mem : r ∈ window skip take rows) : r ∈ rows := by
  cases take with
  | none => exact List.mem_of_mem_drop mem
  | some n => exact List.mem_of_mem_drop (List.mem_of_mem_take mem)

/-- A window of the rows in some order. -/
theorem selects_window {ρ : Type} [Entity ρ] {answer : Except Err (PaginatedResponse ρ)}
    {rows : List ρ} {platform : Platform} {ties : Uuid → ℕ} {order : SortOrder}
    {key : ρ → SortValue} {skip : ℕ} {take : Option ℕ} {pages page limit : ℕ}
    {link : ℕ → String}
    (eq : answer = .ok (paginated (window skip take (platform.orderBy ties order key rows))
      rows.length pages page limit link)) : Selects answer (window skip take) rows :=
  ⟨_, _, eq, rfl, perm_orderBy platform ties order key rows, rfl⟩

/-- So few rows stand before the page that the server reads their exact number as the
OFFSET. -/
def SafePage (page limit : ℕ) : Prop := (page - 1) * limit < 2 ^ 53

theorem safePage_one (limit : ℕ) : SafePage 1 limit := by simp [SafePage]

/-- The lists skip what the server reads. -/
theorem SafePage.offset_ok {page limit : ℕ} (safe : SafePage page limit) (positive : 0 < limit)
    (small : limit < 2 ^ 53) : offset page limit = .ok ((page - 1) * limit) := by
  have before : page - 1 ≤ (page - 1) * limit := Nat.le_mul_of_pos_right _ positive
  exact offset_eq (before.trans_lt safe) small safe

/-! ## The lists -/

/-- The copy in the cache, if there is one, is what a read of these tables can give. -/
def CacheAside.Current {α : Type} (view : CacheAside α) (w : World) : Prop :=
  ∀ a, view.hit w = some a → view.Gives w.db a

theorem CacheAside.answer_fresh {α : Type} {view : CacheAside α} {w : World}
    (tables : view.ReadsTables) (current : view.Current w) :
    ∃ ties, (view.answer w).1 = view.fresh ties w := by
  cases hit : view.hit w with
  | some a =>
      obtain ⟨ties, w', same, read⟩ := current a hit
      refine ⟨ties, ?_⟩
      rw [tables ties w w' same.symm, read]
      simp [CacheAside.answer, hit]
  | none =>
      refine ⟨w.ties 0, ?_⟩
      unfold CacheAside.answer
      rw [hit]
      cases view.fresh (w.ties 0) w <;> rfl

variable {platform : Platform} {tenantId : String} {tenant : Uuid} {w : World}

/-- The page that a query asks for, of the rows in their order. -/
def ProductService.cut (query : ProductQueryDto) (sorted : List Product) : List ProductEntity :=
  (window ((query.page.getD 1 - 1) * query.limit.getD 10) (some (query.limit.getD 10)) sorted).map
    ProductEntity.plain

theorem ProductService.selects_matching {query : ProductQueryDto} {category : Option Uuid}
    (owned : uuidIn tenantId = some tenant)
    (asked : ProductService.askedCategory query.categoryId = .ok category)
    (current : (ProductService.pageView platform tenantId query).Current w) :
    Selects ((ProductService.findAll platform tenantId query).runs w).1 (ProductService.cut query)
      (ProductService.matching platform tenant category query w.db) := by
  rw [runs_findAll]
  obtain ⟨ties, eq⟩ := CacheAside.answer_fresh (pageView_tables platform tenantId query) current
  have read := readPage_eq platform query owned asked
    ((query.page.getD 1 - 1) * query.limit.getD 10) (query.limit.getD 10) ties w
  have fresh : (pageView platform tenantId query).fresh ties w = .ok (pageOf query
      ((window ((query.page.getD 1 - 1) * query.limit.getD 10) (some (query.limit.getD 10))
        (platform.orderBy ties (query.sortOrder.getD .asc) (sortKey query)
          (matching platform tenant category query w.db))).map ProductEntity.plain,
        (matching platform tenant category query w.db).length)) := by
    change (readPage platform tenantId query ((query.page.getD 1 - 1) * query.limit.getD 10)
      (query.limit.getD 10) ties w).map (pageOf query) = _
    rw [read]
    rfl
  exact ⟨_, _, eq.trans fresh, rfl, perm_orderBy _ _ _ _ _, rfl⟩

def VariantService.cut (query : VariantQueryDto) : List ProductVariant → List ProductVariant :=
  window ((query.page.getD 1 - 1) * query.limit.getD 10) (some (query.limit.getD 10))

theorem VariantService.selects_matching {productId : String} {product : Uuid} {row : Product}
    {query : VariantQueryDto} (owned : uuidIn tenantId = some tenant)
    (named : uuidIn productId = some product)
    (shown : (w.db.products.find? fun p =>
      p.id == product && p.tenantId == tenant && w.db.liveTenant tenant && p.live) = some row) :
    Selects ((VariantService.findAll platform tenantId productId query).runs w).1
      (VariantService.cut query) (VariantService.matching platform tenant product query w.db) := by
  have found : readProduct tenantId productId w = .ok (some row) := by
    unfold readProduct uuidParam
    rw [owned, named]
    exact congrArg Except.ok shown
  have read := readPage_eq platform query owned named
    ((query.page.getD 1 - 1) * query.limit.getD 10) (query.limit.getD 10) (w.ties 0) w
  have run : ((findAll platform tenantId productId query).runs w).1 = .ok (paginated
      (window ((query.page.getD 1 - 1) * query.limit.getD 10) (some (query.limit.getD 10))
        (platform.orderBy (w.ties 0) (query.sortOrder.getD .asc) (sortKey query)
          (matching platform tenant product query w.db)))
      (matching platform tenant product query w.db).length
      (max 1 (pageCount (matching platform tenant product query w.db).length
        (query.limit.getD 10))) (query.page.getD 1) (query.limit.getD 10)
      (buildLink productId (query.limit.getD 10))) := by
    simp only [findAll, Svc.runs_bind, runs_findProduct, found, orMissing, Svc.follow_ok,
      Svc.runs_listing, read]
    rfl
  exact selects_window run

/-- A query without a limit has no end. -/
def WarehouseService.cut (query : WarehouseQueryDto) : List Warehouse → List Warehouse :=
  window ((query.page.getD 1 - 1) * query.limit.getD 20) query.limit

theorem WarehouseService.selects_matching {query : WarehouseQueryDto}
    (owned : uuidIn tenantId = some tenant) :
    Selects ((WarehouseService.findAll platform tenantId query).runs w).1
      (WarehouseService.cut query) (WarehouseService.matching platform tenant query w.db) := by
  have read := readPage_eq platform query owned
    ((query.page.getD 1 - 1) * query.limit.getD 20) (w.ties 0) w
  have run : ((findAll platform tenantId query).runs w).1 = .ok (paginated
      (window ((query.page.getD 1 - 1) * query.limit.getD 20) query.limit
        (platform.orderBy (w.ties 0) (query.sortOrder.getD .asc) (sortKey query)
          (matching platform tenant query w.db)))
      (matching platform tenant query w.db).length
      (max 1 (pageCount (matching platform tenant query w.db).length
        (query.limit.getD 20))) (query.page.getD 1) (query.limit.getD 20)
      (buildLink query.limit)) := by
    simp only [findAll, Svc.runs_bind, Svc.follow_ok, Svc.runs_listing, read]
    rfl
  exact selects_window run

def SupplierService.cut (query : SupplierQueryDto) : List Supplier → List Supplier :=
  window ((query.page.getD 1 - 1) * query.limit.getD 10) query.limit

theorem SupplierService.selects_matching {query : SupplierQueryDto}
    (owned : uuidIn tenantId = some tenant) :
    Selects ((SupplierService.findAll platform tenantId query).runs w).1
      (SupplierService.cut query) (SupplierService.matching platform tenant query w.db) := by
  have read := readPage_eq platform query owned
    ((query.page.getD 1 - 1) * query.limit.getD 10) (w.ties 0) w
  have run : ((findAll platform tenantId query).runs w).1 = .ok (paginated
      (window ((query.page.getD 1 - 1) * query.limit.getD 10) query.limit
        (platform.orderBy (w.ties 0) (query.sortOrder.getD .asc) (sortKey query)
          (matching platform tenant query w.db)))
      (matching platform tenant query w.db).length
      (max 1 (pageCount (matching platform tenant query w.db).length
        (query.limit.getD 10))) (query.page.getD 1) (query.limit.getD 10)
      (buildLink (query.limit.getD 10))) := by
    simp only [findAll, Svc.runs_bind, Svc.follow_ok, Svc.runs_listing, read]
    rfl
  exact selects_window run

/-! Categories may come with their children, from rows that are joined and grouped again. -/

namespace CategoryService

/-- The page that a query asks for: with children the joined rows are cut, and from page 2 on
nothing is left of them; without children every page is the first. -/
def cut (db : Database) (query : CategoryQueryDto) (sorted : List Category) :
    List CategoryEntity :=
  if query.includeChildren = some "true" then
    if (query.page.getD 1 - 1) * query.limit.getD 10 = 0 then
      groupJoined ((joinChildren db sorted).take (query.limit.getD 10))
    else []
  else (sorted.take (query.limit.getD 10)).map CategoryEntity.plain

/-- The offset passes all distinct rows that the limit has left. -/
theorem readJoined_later {ties : Uuid → ℕ} {sortBy : CategorySort} {sortOrder : SortOrder}
    {page limit : ℕ} {rows : List Category} {db : Database} (later : page * limit ≠ 0) :
    readJoined platform ties sortBy sortOrder (page * limit) limit rows db = [] := by
  have positive : 0 < page := Nat.pos_of_ne_zero fun zero => later (by rw [zero, Nat.zero_mul])
  have few : (((joinChildren db rows).take limit).map Prod.fst).dedup.length ≤ page * limit := by
    calc (((joinChildren db rows).take limit).map Prod.fst).dedup.length
        ≤ (((joinChildren db rows).take limit).map Prod.fst).length :=
          (List.dedup_sublist _).length_le
      _ ≤ limit := by
          rw [List.length_map]
          exact List.length_take_le _ _
      _ ≤ page * limit := Nat.le_mul_of_pos_left limit positive
  have ordered := (perm_orderBy platform ties sortOrder (sortColumn sortBy)
    (((joinChildren db rows).take limit).map Prod.fst).dedup).length_eq
  have past : (platform.orderBy ties sortOrder (sortColumn sortBy)
      (((joinChildren db rows).take limit).map Prod.fst).dedup).drop (page * limit) = [] :=
    List.drop_eq_nil_of_le (by omega)
  have none : rows.filter (fun c => (([] : List Category).map (·.id)).contains c.id) = [] := by
    simp
  rw [readJoined, if_neg later]
  dsimp only
  rw [past, none]
  simp [Platform.orderBy, joinChildren, groupJoined]

theorem readPage_joined (platform : Platform) (query : CategoryQueryDto) {parent : Option Uuid}
    (owned : uuidIn tenantId = some tenant) (asked : askedParent query.parentId = .ok parent)
    (joined : query.includeChildren = some "true") (page limit : ℕ) (ties : Uuid → ℕ)
    (w : World) : readPage platform tenantId query page limit ties w =
      .ok (readJoined platform ties (query.sortBy.getD .name) (query.sortOrder.getD .asc)
        ((page - 1) * limit) limit (matching platform tenant parent query w.db) w.db,
        (matching platform tenant parent query w.db).length) := by
  have param : uuidParam tenantId = .ok tenant := by rw [uuidParam, owned]
  unfold readPage
  rw [param]
  rcases askedParent_cases asked with
    ⟨blank, same⟩ | ⟨text, chosen, named, read⟩ | ⟨absent, same⟩
  · cases same
    simp only [blank, if_pos joined]
    rfl
  · simp only [chosen, if_pos joined]
    rw [read]
    rfl
  · cases same
    simp only [absent, if_pos joined]
    rfl

theorem selects_matching {query : CategoryQueryDto} {parent : Option Uuid}
    (owned : uuidIn tenantId = some tenant) (asked : askedParent query.parentId = .ok parent)
    (current : (pageView platform tenantId query).Current w) :
    Selects ((findAll platform tenantId query).runs w).1 (cut w.db query)
      (matching platform tenant parent query w.db) := by
  rw [runs_findAll]
  obtain ⟨ties, eq⟩ := CacheAside.answer_fresh (pageView_tables platform tenantId query) current
  let sorted := platform.orderBy ties (query.sortOrder.getD .asc)
    (sortColumn (query.sortBy.getD .name)) (matching platform tenant parent query w.db)
  have read : readPage platform tenantId query (query.page.getD 1) (query.limit.getD 10) ties w =
      .ok (cut w.db query sorted, (matching platform tenant parent query w.db).length) := by
    unfold cut
    by_cases joined : query.includeChildren = some "true"
    · rw [readPage_joined platform query owned asked joined, if_pos joined]
      split
      · rename_i first
        rw [readJoined, if_pos first]
      · rename_i later
        rw [readJoined_later later]
    · rw [readPage_eq platform query owned asked joined, if_neg joined]
      rfl
  have fresh : (pageView platform tenantId query).fresh ties w = .ok (pageOf query
      (cut w.db query sorted, (matching platform tenant parent query w.db).length)) := by
    change (readPage platform tenantId query (query.page.getD 1) (query.limit.getD 10)
      ties w).map (pageOf query) = _
    rw [read]
    rfl
  exact ⟨_, sorted, eq.trans fresh, rfl, perm_orderBy _ _ _ _ _, rfl⟩

end CategoryService

end Tenantory
