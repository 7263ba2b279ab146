import Tenantory.SelectedRows

/-! Searching the lists. The words go into a pattern as they are, so that the search is one
for a substring if and only if no character of them has a meaning in patterns. -/

namespace Tenantory

open UuidText SampleShop

variable {platform : Platform} {letter : Char → Char} {words : String}

namespace SampleShop

def supplierNamed (name : String) : Supplier :=
  ⟨0x50, tenantId, name, none, none, none, none, 0, 0, none⟩

theorem plainText_folds : plainText.FoldsCase id where
  fold _ := (List.map_id _).symm
  again _ := rfl
  many _ := Iff.rfl
  single _ := Iff.rfl
  escape _ := Iff.rfl

end SampleShop

/-! ## The WHERE clauses -/

theorem filter_search {ρ : Type} {rows : List ρ} {all rest : ρ → Bool} {name : ρ → String}
    (split : ∀ r, all r = (platform.ilike ("%" ++ words ++ "%") (name r) && rest r)) :
    rows.filter all = (rows.filter rest).filter
      fun r => platform.ilike ("%" ++ words ++ "%") (name r) := by
  rw [List.filter_filter]
  exact List.filter_congr fun r _ => split r

/-- Plain words are looked for in the rows that meet the other filters. -/
theorem filter_plain {ρ : Type} (folds : platform.FoldsCase letter)
    (plain : PlainChars words.toList) (rows : List ρ) (name : ρ → String) :
    (rows.filter fun r => platform.ilike ("%" ++ words ++ "%") (name r)) =
      rows.filter fun r => platform.Contains words (name r) := by
  refine List.filter_congr fun r _ => ?_
  rw [Bool.eq_iff_iff, Platform.ilike_iff_contains folds plain, decide_eq_true_iff]

namespace ProductService

/-- In every state and whatever else is asked, the list selects on every safe page the rows
that contain the words. -/
def SearchesText (platform : Platform) (words : String) : Prop :=
  ∀ tenantId tenant (query : ProductQueryDto) category w, uuidIn tenantId = some tenant →
    askedCategory query.categoryId = .ok category → query.search = some words →
    SafePage (query.page.getD 1) (query.limit.getD 10) →
    (pageView platform tenantId query).Current w →
    Selects ((findAll platform tenantId query).runs w).1 (cut query)
      ((matching platform tenant category { query with search := none } w.db).filter
        fun p => platform.Contains words p.name)

theorem matching_search (tenant : Uuid) (category : Option Uuid) (query : ProductQueryDto)
    (nonempty : words ≠ "") (search : query.search = some words) (db : Database) :
    matching platform tenant category query db =
      (matching platform tenant category { query with search := none } db).filter
        fun p => platform.ilike ("%" ++ words ++ "%") p.name := by
  refine filter_search fun p => ?_
  have given : (words == "") = false := by simpa using nonempty
  rw [search, Option.all_some, Option.all_none, given]
  simp only [Bool.false_or, Bool.and_true]
  ac_rfl

theorem searchesText_iff (folds : platform.FoldsCase letter) (nonempty : words ≠ "") :
    SearchesText platform words ↔ PlainChars words.toList := by
  constructor
  · intro searches
    by_contra special
    obtain ⟨text, matched, missing⟩ := Platform.exists_matched folds special
    let db := { unstocked with products := one { product with name := text } }
    let query : ProductQueryDto := ⟨none, none, some words, none, none, none, none⟩
    have current : (pageView platform (uuidOut tenantId) query).Current (world db) :=
      fun _ hit => by cases hit
    have claimed := searches (uuidOut tenantId) tenantId query none (world db)
      (uuidIn_uuidOut tenantId) rfl rfl (safePage_one _) current
    have counted := claimed.length_eq (selects_matching (uuidIn_uuidOut tenantId)
      (show askedCategory query.categoryId = .ok none from rfl) current)
    have rows : matching platform tenantId none { query with search := none } (world db).db =
        [{ product with name := text }] := rfl
    rw [matching_search tenantId none query nonempty rfl, rows] at counted
    simp [matched, missing] at counted
  · intro plain tenantId tenant query category w owned asked search _ current
    rw [← filter_plain folds plain, ← matching_search tenant category query nonempty search]
    exact selects_matching owned asked current

end ProductService

namespace CategoryService

/-- In every state and whatever else is asked, the list selects on every safe page the rows
that contain the words. -/
def SearchesText (platform : Platform) (words : String) : Prop :=
  ∀ tenantId tenant (query : CategoryQueryDto) parent w, uuidIn tenantId = some tenant →
    askedParent query.parentId = .ok parent → query.search = some words →
    SafePage (query.page.getD 1) (query.limit.getD 10) →
    (pageView platform tenantId query).Current w →
    Selects ((findAll platform tenantId query).runs w).1 (cut w.db query)
      ((matching platform tenant parent { query with search := none } w.db).filter
        fun c => platform.Contains words c.name)

theorem matching_search (tenant : Uuid) (parent : Option Uuid) (query : CategoryQueryDto)
    (nonempty : words ≠ "") (search : query.search = some words) (db : Database) :
    matching platform tenant parent query db =
      (matching platform tenant parent { query with search := none } db).filter
        fun c => platform.ilike ("%" ++ words ++ "%") c.name := by
  refine filter_search fun c => ?_
  have given : (words == "") = false := by simpa using nonempty
  rw [search, Option.all_some, Option.all_none, given]
  simp only [Bool.false_or, Bool.and_true]
  ac_rfl

theorem searchesText_iff (folds : platform.FoldsCase letter) (nonempty : words ≠ "") :
    SearchesText platform words ↔ PlainChars words.toList := by
  constructor
  · intro searches
    by_contra special
    obtain ⟨text, matched, missing⟩ := Platform.exists_matched folds special
    let db := { unstocked with categories := one { category with name := text } }
    let query : CategoryQueryDto := ⟨none, none, some words, none, none, none, none⟩
    have current : (pageView platform (uuidOut tenantId) query).Current (world db) :=
      fun _ hit => by cases hit
    have claimed := searches (uuidOut tenantId) tenantId query none (world db)
      (uuidIn_uuidOut tenantId) rfl rfl (safePage_one _) current
    have counted := claimed.length_eq (selects_matching (uuidIn_uuidOut tenantId)
      (show askedParent query.parentId = .ok none from rfl) current)
    have rows : matching platform tenantId none { query with search := none } (world db).db =
        [{ category with name := text }] := rfl
    rw [matching_search tenantId none query nonempty rfl, rows] at counted
    simp [matched, missing] at counted
  · intro plain tenantId tenant query parent w owned asked search _ current
    rw [← filter_plain folds plain, ← matching_search tenant parent query nonempty search]
    exact selects_matching owned asked current

end CategoryService

namespace VariantService

/-- In every state that shows the product and whatever else is asked, the list selects on
every safe page the rows that contain the words. -/
def SearchesText (platform : Platform) (words : String) : Prop :=
  ∀ tenantId tenant productId product row (query : VariantQueryDto) (w : World),
    uuidIn tenantId = some tenant → uuidIn productId = some product →
    (w.db.products.find? fun p =>
      p.id == product && p.tenantId == tenant && w.db.liveTenant tenant && p.live) = some row →
    query.search = some words → SafePage (query.page.getD 1) (query.limit.getD 10) →
    Selects ((findAll platform tenantId productId query).runs w).1 (cut query)
      ((matching platform tenant product { query with search := none } w.db).filter
        fun v => platform.Contains words v.sku)

theorem matching_search (tenant product : Uuid) (query : VariantQueryDto)
    (nonempty : words ≠ "") (search : query.search = some words) (db : Database) :
    matching platform tenant product query db =
      (matching platform tenant product { query with search := none } db).filter
        fun v => platform.ilike ("%" ++ words ++ "%") v.sku := by
  refine filter_search fun v => ?_
  have given : (words == "") = false := by simpa using nonempty
  rw [search, Option.all_some, Option.all_none, given]
  simp only [Bool.false_or, Bool.and_true]
  ac_rfl

theorem searchesText_iff (folds : platform.FoldsCase letter) (nonempty : words ≠ "") :
    SearchesText platform words ↔ PlainChars words.toList := by
  constructor
  · intro searches
    by_contra special
    obtain ⟨text, matched, missing⟩ := Platform.exists_matched folds special
    let db := { unstocked with variants := one { variant with sku := text } }
    let query : VariantQueryDto := ⟨none, none, some words, none, none, none, none⟩
    have shown : ((world db).db.products.find? fun p => p.id == productId &&
        p.tenantId == tenantId && (world db).db.liveTenant tenantId && p.live) = some product := rfl
    have claimed := searches (uuidOut tenantId) tenantId (uuidOut productId) productId product query
      (world db) (uuidIn_uuidOut tenantId) (uuidIn_uuidOut productId) shown rfl
      (safePage_one _)
    have counted := claimed.length_eq (selects_matching (uuidIn_uuidOut tenantId)
      (uuidIn_uuidOut productId) shown)
    have rows : matching platform tenantId productId { query with search := none } (world db).db =
        [{ variant with sku := text }] := rfl
    rw [matching_search tenantId productId query nonempty rfl, rows] at counted
    simp [matched, missing] at counted
  · intro plain tenantId tenant productId product row query w owned named shown search _
    rw [← filter_plain folds plain, ← matching_search tenant product query nonempty search]
    exact selects_matching owned named shown

end VariantService

namespace WarehouseService

/-- In every state and whatever else is asked, the list selects on every safe page the rows
that contain the words. -/
def SearchesText (platform : Platform) (words : String) : Prop :=
  ∀ tenantId tenant (query : WarehouseQueryDto) (w : World), uuidIn tenantId = some tenant →
    query.search = some words → SafePage (query.page.getD 1) (query.limit.getD 20) →
    Selects ((findAll platform tenantId query).runs w).1 (cut query)
      ((matching platform tenant { query with search := none } w.db).filter
        fun h => platform.Contains words h.name)

theorem matching_search (tenant : Uuid) (query : WarehouseQueryDto) (nonempty : words ≠ "")
    (search : query.search = some words) (db : Database) :
    matching platform tenant query db =
      (matching platform tenant { query with search := none } db).filter
        fun h => platform.ilike ("%" ++ words ++ "%") h.name := by
  refine filter_search fun h => ?_
  have given : (words == "") = false := by simpa using nonempty
  rw [search, Option.all_some, Option.all_none, given]
  simp only [Bool.false_or, Bool.and_true]
  ac_rfl

theorem searchesText_iff (folds : platform.FoldsCase letter) (nonempty : words ≠ "") :
    SearchesText platform words ↔ PlainChars words.toList := by
  constructor
  · intro searches
    by_contra special
    obtain ⟨text, matched, missing⟩ := Platform.exists_matched folds special
    let db := { unstocked with warehouses := one { warehouse with name := text } }
    let query : WarehouseQueryDto := ⟨none, none, some words, none, none⟩
    have claimed := searches (uuidOut tenantId) tenantId query (world db)
      (uuidIn_uuidOut tenantId) rfl (safePage_one _)
    have counted := claimed.length_eq (selects_matching (uuidIn_uuidOut tenantId))
    have rows : matching platform tenantId { query with search := none } (world db).db =
        [{ warehouse with name := text }] := rfl
    rw [matching_search tenantId query nonempty rfl, rows] at counted
    simp [matched, missing] at counted
  · intro plain tenantId tenant query w owned search _
    rw [← filter_plain folds plain, ← matching_search tenant query nonempty search]
    exact selects_matching owned

end WarehouseService

namespace SupplierService

/-- In every state and whatever else is asked, the list selects on every safe page the rows
that contain the words. -/
def SearchesText (platform : Platform) (words : String) : Prop :=
  ∀ tenantId tenant (query : SupplierQueryDto) (w : World), uuidIn tenantId = some tenant →
    query.search = some words → SafePage (query.page.getD 1) (query.limit.getD 10) →
    Selects ((findAll platform tenantId query).runs w).1 (cut query)
      ((matching platform tenant { query with search := none } w.db).filter
        fun s => platform.Contains words s.companyName)

theorem matching_search (tenant : Uuid) (query : SupplierQueryDto) (nonempty : words ≠ "")
    (search : query.search = some words) (db : Database) :
    matching platform tenant query db =
      (matching platform tenant { query with search := none } db).filter
        fun s => platform.ilike ("%" ++ words ++ "%") s.companyName := by
  refine filter_search fun s => ?_
  have given : (words == "") = false := by simpa using nonempty
  rw [search, Option.all_some, Option.all_none, given]
  simp only [Bool.false_or, Bool.and_true]
  ac_rfl

theorem searchesText_iff (folds : platform.FoldsCase letter) (nonempty : words ≠ "") :
    SearchesText platform words ↔ PlainChars words.toList := by
  constructor
  · intro searches
    by_contra special
    obtain ⟨text, matched, missing⟩ := Platform.exists_matched folds special
    let db := { unstocked with suppliers := one (supplierNamed text) }
    let query : SupplierQueryDto := ⟨none, none, some words, none, none⟩
    have claimed := searches (uuidOut tenantId) tenantId query (world db)
      (uuidIn_uuidOut tenantId) rfl (safePage_one _)
    have counted := claimed.length_eq (selects_matching (uuidIn_uuidOut tenantId))
    have rows : matching platform tenantId { query with search := none } (world db).db =
        [(supplierNamed text)] := rfl
    rw [matching_search tenantId query nonempty rfl, rows] at counted
    simp [supplierNamed, matched, missing] at counted
  · intro plain tenantId tenant query w owned search _
    rw [← filter_plain folds plain, ← matching_search tenant query nonempty search]
    exact selects_matching owned

end SupplierService

/-! ## The search -/

end Tenantory
