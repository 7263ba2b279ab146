import Tenantory.CategoryTree
import Tenantory.PageWalks
import Tenantory.StockListing
import Tenantory.StoredRows

/-! Walks through the stock list in its default order. The order names a column of the stock
rows, which the query for distinct ids does not have: with a filter the server rejects every
page. -/

namespace Tenantory
namespace InventoryService

open PagedLists UuidText

/-! ## The default order -/

/-- `created_at` names a column of the stock rows, and none of the query for distinct ids. -/
structure DefaultOrder (platform : Platform) : Prop where
  alone : platform.sortText .alone "created_at" = .ok fun _ row => .ok (.number row.createdAt)
  distinct : platform.sortText .distinct "created_at" = .error .undefinedColumn

theorem splitOn_createdAt : "created_at".splitOn "." = ["created_at"] := by
  unfold String.splitOn
  rw [if_neg (by decide)]
  repeat (rw [String.splitOnAux]; simp +decide)

variable {platform : Platform} {tenantId : String} {tenant : Uuid} {db : Database}

/-- The stock rows of the tenant for the variant and the warehouse that are named. -/
def listed (tenant : Uuid) (variant warehouse : Option Uuid) (db : Database) : List StockLevel :=
  db.stockLevels.select fun s => s.tenantId == tenant && (variant.all (s.variantId == ·)) &&
    warehouse.all (s.warehouseId == ·)

def byDate (row : StockLevel) : SortValue := .number row.createdAt

/-- The key under which a row is found again. -/
def foundKey (rows : List StockLevel) (row : StockLevel) : SortValue :=
  ((rows.map fun r => (r.id, byDate r)).lookup row.id).getD .null

theorem foundKey_eq {rows : List StockLevel} (ids : (rows.map StockLevel.id).Nodup)
    {row : StockLevel} (mem : row ∈ rows) : foundKey rows row = byDate row := by
  unfold foundKey
  induction rows with
  | nil => cases mem
  | cons r rows ih =>
      rw [List.map_cons, List.nodup_cons] at ids
      rw [List.map_cons, List.lookup_cons]
      rcases List.mem_cons.mp mem with rfl | later
      · rw [beq_self_eq_true]
        rfl
      · have other : (row.id == r.id) = false :=
          beq_false_of_ne fun same => ids.1 (same ▸ List.mem_map_of_mem later)
        rw [other]
        exact ih ids.2 later

theorem orderByText_alone (defaults : DefaultOrder platform) (ties : Uuid → ℕ)
    (order : SortOrder)
    (rows : List StockLevel) : orderByText platform ties order .alone (some "created_at") db rows =
      .ok (platform.orderBy ties order (foundKey rows) rows) := by
  unfold orderByText
  dsimp only
  rw [defaults.alone]
  have keys : rows.mapM (fun r : StockLevel => (do
      pure (r.id, ← (.ok (byDate r) : Except Err SortValue)) : Except Err (Uuid × SortValue))) =
        .ok (rows.map fun r => (r.id, byDate r)) :=
    List.mapM_pure
  exact congrArg (fun keys => keys >>= fun keys => pure
    (platform.orderBy ties order (fun r => (keys.lookup r.id).getD .null) rows)) keys

theorem orderDistinct_rejected (defaults : DefaultOrder platform) (ties : Uuid → ℕ)
    (order : SortOrder) (variant warehouse : Bool) (rows : List StockLevel) :
    orderDistinct platform ties order variant warehouse (some "created_at") db rows =
      .error .undefinedColumn := by
  unfold orderDistinct
  rw [Option.map_some, splitOn_createdAt]
  dsimp only [orderByText]
  rw [defaults.distinct]
  rfl

/-- The pages of a query. -/
def pages (platform : Platform) (tenantId : String) (query : StockQueryDto) (page : ℕ) :
    Svc (PaginatedResponse StockView) :=
  findAll platform tenantId { query with page := some page }

section Read

variable {query : StockQueryDto} {order : SortOrder} (defaults : DefaultOrder platform)
  (owned : uuidIn tenantId = some tenant) (sorted : query.sortBy = some "created_at")
  (directed : direction query.sortOrder = .ok order)

include defaults owned sorted directed

theorem readPage_alone (alone : truthy query.variantId = none)
    (alone' : truthy query.warehouseId = none) (skip limit : ℕ)
    (ties : Uuid → ℕ) (w : World) :
    readPage platform tenantId query skip limit ties w =
      .ok ((window skip (some limit) (platform.orderBy ties order
        (foundKey (listed tenant none none w.db)) (listed tenant none none w.db))).map
          (view w.db false false), (listed tenant none none w.db).length) := by
  have param : uuidParam tenantId = .ok tenant := by rw [uuidParam, owned]
  have column : truthy query.sortBy = some "created_at" := by rw [sorted]; rfl
  have read : orderByText platform ties order .alone (some "created_at") w.db
      (listed tenant none none w.db) = _ :=
    orderByText_alone defaults ties order _
  unfold readPage
  rw [alone, alone', column, directed, param]
  change (orderByText platform ties order .alone (some "created_at") w.db
    (listed tenant none none w.db) >>= fun sorted => pure
      ((window skip (some limit) sorted).map (view w.db false false),
        (listed tenant none none w.db).length)) = _
  rw [read]
  rfl

/-- With a filter nothing is read. -/
theorem readPage_filtered {variant warehouse : Option Uuid}
    (named : (truthy query.variantId).mapM uuidParam = .ok variant)
    (named' : (truthy query.warehouseId).mapM uuidParam = .ok warehouse)
    (filtered : ((truthy query.variantId).isSome || (truthy query.warehouseId).isSome) = true)
    (skip limit : ℕ) (ties : Uuid → ℕ) (w : World) :
    readPage platform tenantId query skip limit ties w = .error .undefinedColumn := by
  have param : uuidParam tenantId = .ok tenant := by rw [uuidParam, owned]
  have column : truthy query.sortBy = some "created_at" := by rw [sorted]; rfl
  unfold readPage
  dsimp only
  rw [column, directed, param, named, named']
  dsimp only [bind, Except.bind]
  rw [if_pos filtered, orderDistinct_rejected defaults]

end Read

/-! ## Filters and pages -/

theorem runs_page_error {query : StockQueryDto} {e : Err} (unread : ∀ skip limit ties w,
    readPage platform tenantId query skip limit ties w = .error e) (page : ℕ) (w : World) :
    ((pages platform tenantId query page).runs w).1 = .error e := by
  unfold pages findAll
  dsimp only
  have same : ∀ skip limit, readPage platform tenantId
    { query with page := some page } skip limit =
      readPage platform tenantId query skip limit := fun _ _ => rfl
  rw [same]
  simp only [Svc.runs_bind, Svc.runs_listing, unread]
  rfl

section Pages

variable {query : StockQueryDto} {limit : ℕ} (limited : query.limit = some limit)
  (positive : 0 < limit)

include limited positive

theorem runs_page (platform : Platform) (tenantId : String) (n : ℕ) (w : World) :
    (pages platform tenantId query (n + 1)).runs w =
    ((readPage platform tenantId query (n * limit) limit (w.ties 0) w).map fun read =>
      paginated read.1 read.2 (pageCount read.2 limit) (n + 1) limit (createLink limit),
      { w with ties := fun m => w.ties (m + 1) }) := by
  have asked : positiveOr 20 query.limit = limit := by
    have some : (limit != 0) = true := by simpa using positive.ne'
    rw [limited, positiveOr, Option.filter_some, if_pos some]
    rfl
  have first : positiveOr 1 (some (n + 1)) = n + 1 := rfl
  have same : ∀ skip, readPage platform tenantId { query with page := some (n + 1) } skip limit =
      readPage platform tenantId query skip limit := fun _ => rfl
  unfold pages findAll
  dsimp only
  rw [asked, first, Nat.add_sub_cancel, same]
  simp only [Svc.runs_bind, Svc.runs_listing]
  cases readPage platform tenantId query (n * limit) limit (w.ties 0) w <;> rfl

/-- Without a filter the rows are walked as they are sorted. -/
theorem lossless_alone {order : SortOrder} (ordered : platform.Ordered)
    (defaults : DefaultOrder platform) (owned : uuidIn tenantId = some tenant)
    (sorted : query.sortBy = some "created_at") (directed : direction query.sortOrder = .ok order)
    (alone : truthy query.variantId = none) (alone' : truthy query.warehouseId = none)
    (stocked : listed tenant none none db ≠ []) :
    (∀ w, w.db = db → Lossless (pages platform tenantId query)
      ((listed tenant none none db).map (view db false false)) w) ↔
      Apart (platform.sorts order byDate) limit (listed tenant none none db) := by
  have ids : ((listed tenant none none db).map StockLevel.id).Nodup := nodup_ids _ _
  have views : ((listed tenant none none db).map (view db false false)).Nodup := by
    exact (List.Nodup.of_map _ ids).map fun _ _ same => congrArg StockView.row same
  have byKey : (∀ w, w.db = db → Lossless (pages platform tenantId query)
      ((listed tenant none none db).map (view db false false)) w) ↔
      Apart (platform.sorts order (foundKey (listed tenant none none db))) limit
        (listed tenant none none db) := by
    refine lossless_iff_of_read ordered ids views positive fun n w same => ?_
    cases same
    have read := readPage_alone defaults owned sorted directed alone alone' (n * limit) limit
      (w.ties 0) w
    have some : 1 ≤ pageCount (listed tenant none none w.db).length limit :=
      (lt_pageCount_iff positive).mpr (by simpa [List.length_pos_iff] using stocked)
    have run := runs_page limited positive platform tenantId n w
    rw [read] at run
    exact ⟨_, run, rfl, (Nat.max_eq_right some).symm⟩
  rw [byKey]
  refine apart_congr fun a mem b mem' => ?_
  cases order <;> simp only [Platform.sorts, foundKey_eq ids mem, foundKey_eq ids mem']

/-- With no row to list every page is empty. -/
theorem lossless_empty {order : SortOrder} (defaults : DefaultOrder platform)
    (owned : uuidIn tenantId = some tenant) (sorted : query.sortBy = some "created_at")
    (directed : direction query.sortOrder = .ok order) (alone : truthy query.variantId = none)
    (alone' : truthy query.warehouseId = none) {w : World}
    (none : listed tenant none none w.db = []) :
    Lossless (pages platform tenantId query) [] w := by
  have noPages : pageCount 0 limit = 0 := Nat.le_zero.mp ((pageCount_le_iff positive).mpr (by simp))
  have first := runs_page limited positive platform tenantId 0 w
  rw [readPage_alone defaults owned sorted directed alone alone', none] at first
  refine ⟨[paginated [] 0 0 1 limit (createLink limit)], ?_, List.Perm.refl []⟩
  rw [walkPages, Svc.runs_bind, first]
  simp only [Platform.orderBy, List.insertionSort_nil, window, List.drop_nil, List.take_nil,
    List.map_nil, List.length_nil, Except.map, noPages]
  rfl

end Pages

theorem truthy_eq_none {text : Option String} {id : Option Uuid}
    (named : (truthy text).mapM uuidParam = .ok id) : truthy text = none ↔ id = none := by
  cases given : truthy text with
  | none =>
      rw [given] at named
      cases named
      simp
  | some t =>
      rw [given, Option.mapM_some] at named
      obtain ⟨found, _, result⟩ := bind_eq_ok.mp named
      cases result
      simp

/-- The stock list in its default order answers with the rows that its filters name, on
pages that give each row once, if and only if its direction is one of the two, there is no
filter and no page begins between rows of one date. -/
theorem stock_list_iff {platform : Platform} (ordered : platform.Ordered)
    (defaults : DefaultOrder platform) {tenantId : String} {tenant : Uuid}
    (owned : uuidIn tenantId = some tenant) {query : StockQueryDto} {limit : ℕ}
    (limited : query.limit = some limit) (positive : 0 < limit)
    (sorted : query.sortBy = some "created_at") {variant warehouse : Option Uuid}
    (named : (truthy query.variantId).mapM uuidParam = .ok variant)
    (named' : (truthy query.warehouseId).mapM uuidParam = .ok warehouse) (db : Database) :
    (∀ w, w.db = db →
      Lossless (pages platform tenantId query)
        ((listed tenant variant warehouse db).map (view db variant.isSome warehouse.isSome)) w ∧
      ∀ n, n * limit < 2 ^ 53 → ∃ response,
        ((pages platform tenantId query (n + 1)).runs w).1 = .ok response ∧
          response.pageMeta.totalItems = (listed tenant variant warehouse db).length) ↔
    ∃ order, direction query.sortOrder = .ok order ∧ variant = none ∧ warehouse = none ∧
      Apart (platform.sorts order byDate) limit (listed tenant variant warehouse db) := by
  constructor
  · intro agrees
    obtain ⟨lossless, paged⟩ := agrees (db.ranked fun _ _ => 0) rfl
    obtain ⟨response, resolved, total⟩ := paged 0 (by norm_num)
    cases directed : direction query.sortOrder with
    | error e =>
        rw [runs_page_error fun skip limit ties w => by
          unfold readPage
          rw [directed]
          rfl] at resolved
        cases resolved
    | ok order =>
    refine ⟨order, rfl, ?_⟩
    by_cases filtered :
      ((truthy query.variantId).isSome || (truthy query.warehouseId).isSome) = true
    · rw [runs_page_error fun skip limit ties w =>
        readPage_filtered defaults owned sorted directed named named' filtered skip limit ties w]
        at resolved
      cases resolved
    · rw [Bool.or_eq_true, not_or, Bool.not_eq_true, Bool.not_eq_true, Option.isSome_eq_false_iff,
        Option.isSome_eq_false_iff, Option.isNone_iff_eq_none,
        Option.isNone_iff_eq_none] at filtered
      obtain ⟨alone, alone'⟩ := filtered
      cases (truthy_eq_none named).mp alone
      cases (truthy_eq_none named').mp alone'
      refine ⟨rfl, rfl, ?_⟩
      by_cases stocked : listed tenant none none db = []
      · intro a mem
        rw [stocked] at mem
        cases mem
      · exact (lossless_alone limited positive ordered defaults owned sorted directed alone alone'
          stocked).mp fun w same => (agrees w same).1
  · rintro ⟨order, directed, rfl, rfl, apart⟩ w rfl
    have alone := (truthy_eq_none named).mpr rfl
    have alone' := (truthy_eq_none named').mpr rfl
    constructor
    · by_cases stocked : listed tenant none none w.db = []
      · rw [stocked, List.map_nil]
        exact lossless_empty limited positive defaults owned sorted directed alone alone' stocked
      · exact (lossless_alone limited positive ordered defaults owned sorted directed alone alone'
          stocked).mpr apart w rfl
    · intro n _
      have run := runs_page limited positive platform tenantId n w
      rw [readPage_alone defaults owned sorted directed alone alone'] at run
      exact ⟨_, congrArg Prod.fst run, rfl⟩

/-! ## A stocked shop -/

section Depot

open SampleShop

/-- Reads `created_at` as the server does. -/
def byDates : Platform :=
  { plainText with
    sortText := fun place text =>
      if text ≠ "created_at" then .error .undefinedColumn
      else match place with
        | .alone => .ok fun _ row => .ok (.number row.createdAt)
        | .joined => .error (.queryFailed "42702")
        | .distinct => .error .undefinedColumn }

theorem byDates_ordered : byDates.Ordered := ⟨plainText_ordered.total, plainText_ordered.trans⟩

theorem byDates_defaults : DefaultOrder byDates := ⟨rfl, rfl⟩

def allStock : StockQueryDto := ⟨some 1, some 20, none, none, some "created_at", some "DESC"⟩

def shirtStock : StockQueryDto := { allStock with variantId := some (uuidOut SampleShop.variantId) }

/-- The shop has stock of the shirt, and the list filtered by the shirt is rejected. -/
theorem filtered_stock_rejected :
    (listed SampleShop.tenantId (some SampleShop.variantId) none (stocked 5 0)).length = 1 ∧
    ((pages byDates (uuidOut SampleShop.tenantId) shirtStock 1).runs (world (stocked 5 0))).1 =
      .error .undefinedColumn := by
  refine ⟨by decide, ?_⟩
  have limited : shirtStock.limit = some 20 := rfl
  have sorted : shirtStock.sortBy = some "created_at" := rfl
  have directed : direction shirtStock.sortOrder = .ok .desc := rfl
  have named : (truthy shirtStock.variantId).mapM uuidParam = .ok (some SampleShop.variantId) := by
    decide
  have named' : (truthy shirtStock.warehouseId).mapM uuidParam = .ok none := rfl
  rw [runs_page limited (by decide), readPage_filtered byDates_defaults
    (uuidIn_uuidOut SampleShop.tenantId) sorted directed named named' (by decide)]
  rfl

/-- Stock of three variants, one of which has been removed, and stock of another tenant. -/
def shelves : Database :=
  { unstocked with
    variants :=
      ⟨[variant, ⟨0x5b, SampleShop.tenantId, productId, "TSH-RED-M", 20, .emptyObject, 0,
      0, none⟩, ⟨0x5c, SampleShop.tenantId, productId, "TSH-OLD-M", 20, .emptyObject, 0, 0,
      some 4⟩], by decide⟩
    stockLevels := ⟨[stock 5 0, { stock 3 1 with id := 0x58, variantId := 0x5b, createdAt := 2 },
      { stock 7 0 with id := 0x59, variantId := 0x5c, createdAt := 1 },
      { stock 9 0 with id := 0x5a, tenantId := 0x72, variantId := 0x5d, createdAt := 3 }],
      by decide⟩ }

/-- The three rows of the shop on two pages. -/
theorem stock_list_iff_depot :
    Lossless (pages byDates (uuidOut SampleShop.tenantId) { allStock with limit := some 2 })
      ((listed SampleShop.tenantId none none shelves).map (view shelves false false))
      (world shelves) ∧
    ∀ n, n * 2 < 2 ^ 53 → ∃ response, ((pages byDates (uuidOut SampleShop.tenantId)
        { allStock with limit := some 2 } (n + 1)).runs (world shelves)).1 = .ok response ∧
        response.pageMeta.totalItems = 3 :=
  (stock_list_iff byDates_ordered byDates_defaults (uuidIn_uuidOut SampleShop.tenantId) rfl
    (by decide) rfl rfl rfl shelves).mpr
      ⟨.desc, rfl, rfl, rfl, apart_of_distinct (by decide)⟩ (world shelves) rfl

end Depot

end InventoryService
end Tenantory
