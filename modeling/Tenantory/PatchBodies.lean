import Tenantory.ProductWrites
import Tenantory.SampleShop

/-! Bodies of PATCH requests: what the pipe makes of them, and the rows that an update leaves. -/

namespace Tenantory

open Stored UuidText

/-- What the validation library makes of texts. -/
structure BodyValidators where
  length : String → ℕ
  isUUID : String → Bool
  /-- `Number(text)`, when it is finite -/
  number : String → Option ℚ

namespace BodyValidators

variable (validators : BodyValidators)

def text (least most : ℕ) : Json → Option String
  | .str text =>
      if least ≤ validators.length text ∧ validators.length text ≤ most then
        some text else none
  | _ => none

def filledText (least most : ℕ) (json : Json) : Option String :=
  (validators.text least most json).filter (· != "")

def uuid : Json → Option String
  | .str text => if text != "" && validators.isUUID text then some text else none
  | _ => none

/-- Three capital letters or digits. -/
def skuPrefix : Json → Option String
  | .str text =>
      if text.length = 3 ∧ text.toList.all (fun c => c.isUpper || c.isDigit) then some text
      else none
  | _ => none

/-- A truth value, or the text of one. -/
def boolean : Json → Option Bool
  | .bool b => some b
  | .str "true" => some true
  | .str "false" => some false
  | _ => none

/-- `Number(value)` -/
def toNumber : Json → Option ℚ
  | .num q => some q
  | .str text => validators.number text
  | .bool b => some (if b then 1 else 0)
  | _ => none

/-- A positive number with at most two decimal places. -/
def price (json : Json) : Option ℚ := do
  let q ← validators.toNumber json
  if (q * 100).isInt && 0 < q then some q else none

def object : Json → Option Json
  | .obj fields => some (.obj fields)
  | _ => none

end BodyValidators

namespace Json

/-- No field but these is given. -/
def only (names : List String) : Json → Option Unit
  | .obj fields => if fields.all fun f => names.contains f.1 then some () else none
  | _ => none

/-- An optional property: `IsOptional` skips the checks of a null. -/
def property {α : Type} (body : Json) (key : String) (read : Json → Option α) :
    Option (Property α) :=
  match body.field? key with
  | none => some .undefined
  | some .null => some .null
  | some json => (read json).map .value

end Json

/-- A property with an initialiser. -/
def Property.initially {α : Type} (a : α) : Property α → Property α
  | undefined => value a
  | given => given

open BodyValidators

def UpdateProductDto.ofBody (validators : BodyValidators) (body : Json) :
    Option UpdateProductDto := do
  body.only ["name", "categoryId", "skuPrefix", "isActive", "description"]
  pure {
    name := ← body.property "name" (validators.filledText 1 255)
    categoryId := ← body.property "categoryId" validators.uuid
    skuPrefix := ← body.property "skuPrefix" BodyValidators.skuPrefix
    isActive := (← body.property "isActive" boolean).initially true
    description := ← body.property "description" (validators.text 0 5000) }

def UpdateVariantDto.ofBody (validators : BodyValidators) (body : Json) :
    Option UpdateVariantDto := do
  body.only ["sku", "price", "attributes"]
  pure {
    sku := ← body.property "sku" (validators.filledText 3 100)
    price := ← body.property "price" validators.price
    attributes := (← body.property "attributes" object).initially .emptyObject }

/-! ## What a patch is to do -/

/-- A column keeps its value when the body does not have its key, and shows the value of the body
when it has. -/
def Json.Writes {α : Type} (body : Json) (key : String) (shows : Json → α → Prop)
    (before after : α) : Prop :=
  match body.field? key with
  | none => after = before
  | some json => shows json after

structure Product.Patched (body : Json) (before after : Product) : Prop where
  name : body.Writes "name" (fun json name => json = .str name) before.name after.name
  description : body.Writes "description" (fun json text => json = .nullable .str text)
    before.description after.description
  isActive : body.Writes "isActive" (fun json isActive => boolean json = some isActive)
    before.isActive after.isActive
  category : body.Writes "categoryId" (fun json id => ∃ text, json = .str text ∧
    uuidIn text = some id) before.categoryId after.categoryId

structure ProductVariant.Patched (validators : BodyValidators) (body : Json)
    (before after : ProductVariant) : Prop where
  sku : body.Writes "sku" (fun json sku => json = .str sku) before.sku after.sku
  price : body.Writes "price" (fun json price => validators.toNumber json = some price)
    before.price after.price
  attributes : body.Writes "attributes" (fun json attributes => json = attributes)
    before.attributes after.attributes

/-! ## Columns -/

section Columns

variable {α : Type} {body : Json} {key : String} {read : Json → Option α} {given : Property α}
  {shows : Json → α → Prop} {before current after : α}

/-- What a property is, from what the body has for its key. -/
inductive Json.Gives (body : Json) (key : String) (read : Json → Option α) : Property α → Prop
  | absent : body.field? key = none → Gives body key read .undefined
  | null : body.field? key = some .null → Gives body key read .null
  | value {json : Json} {a : α} : body.field? key = some json → read json = some a →
      Gives body key read (.value a)

theorem Json.gives (h : body.property key read = some given) : body.Gives key read given := by
  unfold property at h
  split at h
  · rename_i absent
    cases h
    exact .absent absent
  · rename_i null
    cases h
    exact .null null
  · rename_i present
    obtain ⟨a, shown, rfl⟩ := Option.map_eq_some_iff.mp h
    exact .value present shown

/-- A column that cannot be null is right unless the body leaves it out and it has changed. -/
theorem Json.Gives.writes_iff (gives : body.Gives key read given)
    (shown : ∀ json a, read json = some a → shows json a)
    (assigned : given.assign (some current) = some after) :
    body.Writes key shows before after ↔ (body.field? key = none → current = before) := by
  unfold Writes
  cases gives with
  | absent absent =>
      cases assigned
      simp [absent]
  | null null => cases assigned
  | value present read =>
      cases assigned
      simp [present, shown _ _ read]

theorem Json.Gives.initially_writes_iff (gives : body.Gives key read given)
    (shown : ∀ json a, read json = some a → shows json a) {start : α}
    (assigned : (given.initially start).assign (some current) = some after) :
    body.Writes key shows before after ↔ (body.field? key = none → start = before) := by
  unfold Writes
  cases gives with
  | absent absent =>
      cases assigned
      simp [absent]
  | null null => cases assigned
  | value present read =>
      cases assigned
      simp [present, shown _ _ read]

theorem Json.Gives.nullable_writes_iff (gives : body.Gives key read given) {json : α → Json}
    (shown : ∀ document a, read document = some a → document = json a)
    {before current : Option α} :
    body.Writes key (fun document a => document = .nullable json a) before
      (given.assign current) ↔ (body.field? key = none → current = before) := by
  unfold Writes
  cases gives with
  | absent absent => simp [absent, Property.assign]
  | null null => simp [null, Property.assign, Json.nullable]
  | value present read => simp [present, Property.assign, Json.nullable, shown _ _ read]

end Columns

section Readers

variable {validators : BodyValidators} {json : Json}

theorem BodyValidators.text_shows {least most : ℕ} {text : String}
    (read : validators.text least most json = some text) : json = .str text := by
  unfold BodyValidators.text at read
  split at read
  · split at read
    · cases read
      rfl
    · cases read
  · cases read

theorem BodyValidators.filledText_shows {least most : ℕ} {text : String}
    (read : validators.filledText least most json = some text) :
    json = .str text ∧ text ≠ "" := by
  obtain ⟨read, filled⟩ := Option.filter_eq_some_iff.mp read
  exact ⟨text_shows read, by simpa using filled⟩

theorem BodyValidators.uuid_shows {text : String} (read : validators.uuid json = some text) :
    json = .str text ∧ text ≠ "" := by
  unfold BodyValidators.uuid at read
  split at read
  · split at read
    · rename_i valid
      cases read
      exact ⟨rfl, by simpa using And.left (by simpa using valid)⟩
    · cases read
  · cases read

theorem BodyValidators.price_shows {price : ℚ} (read : validators.price json = some price) :
    validators.toNumber json = some price := by
  obtain ⟨q, number, read⟩ := Option.bind_eq_some_iff.mp read
  split at read
  · cases read
    exact number
  · cases read

theorem BodyValidators.object_shows {attributes : Json} (read : object json = some attributes) :
    json = attributes := by
  unfold object at read
  split at read
  · cases read
    rfl
  · cases read

end Readers

section Bodies

variable {validators : BodyValidators} {body : Json}

/-- Where each property of the DTO comes from. -/
structure UpdateProductDto.Read (validators : BodyValidators) (body : Json)
    (dto : UpdateProductDto) : Prop where
  name : body.Gives "name" (validators.filledText 1 255) dto.name
  categoryId : body.Gives "categoryId" validators.uuid dto.categoryId
  isActive : ∃ given, body.Gives "isActive" boolean given ∧ dto.isActive = given.initially true
  description : body.Gives "description" (validators.text 0 5000) dto.description

theorem UpdateProductDto.read {dto : UpdateProductDto} (h : ofBody validators body = some dto) :
    dto.Read validators body := by
  simp only [ofBody, Option.bind_eq_bind, Option.bind_eq_some_iff, Option.pure_def,
    Option.some.injEq] at h
  obtain ⟨-, -, name, named, categoryId, category, skuPrefix, -, isActive, active, description,
    described, rfl⟩ := h
  exact ⟨Json.gives named, Json.gives category, ⟨isActive, Json.gives active, rfl⟩,
    Json.gives described⟩

structure UpdateVariantDto.Read (validators : BodyValidators) (body : Json)
    (dto : UpdateVariantDto) : Prop where
  sku : body.Gives "sku" (validators.filledText 3 100) dto.sku
  price : body.Gives "price" validators.price dto.price
  attributes : ∃ given, body.Gives "attributes" object given ∧
    dto.attributes = given.initially .emptyObject

theorem UpdateVariantDto.read {dto : UpdateVariantDto} (h : ofBody validators body = some dto) :
    dto.Read validators body := by
  simp only [ofBody, Option.bind_eq_bind, Option.bind_eq_some_iff, Option.pure_def,
    Option.some.injEq] at h
  obtain ⟨-, -, sku, named, price, priced, attributes, attributed, rfl⟩ := h
  exact ⟨Json.gives named, Json.gives priced, attributes, Json.gives attributed, rfl⟩

end Bodies

/-! ## Products -/

namespace ProductService

variable {context : Option AuditContextData} {tenantId id : String} {dto : UpdateProductDto}
  {body : Json} {product saved : ProductEntity} {row after : Product} {w w' : World}

/-- A successful update overwrites the row with the patched product that it has found. -/
theorem update_overwrites (updated : (update context tenantId id dto).runs w = (.ok saved, w'))
    (mem : row ∈ w.db.products) (same : row.id = saved.id) :
    ∃ product w₁ after, Finds tenantId id w product w₁ ∧ product.id = row.id ∧
      overwrite (patched dto product) w.clock row = .ok after ∧
      after ∈ w'.db.products ∧ after.id = row.id := by
  rcases update_cases context tenantId id dto w with
    ⟨⟨e, failed⟩, -⟩ | ⟨product, w₁, w₂, answer, w₃, steps, ends⟩
  · rw [updated] at failed
    cases failed
  · rw [updated] at ends
    obtain ⟨rfl, written⟩ : answer = saved ∧ w'.db = w₃.db := by
      generalize finish : published context (updateAudit product answer) tenantId id w₃ = last
        at ends
      cases ends with
      | done out =>
          cases out
          exact ⟨rfl, (published_db finish).1⟩
      | unaudited out => cases out
    have db : w₂.db = w.db := by
      have first := steps.finds.db
      cases steps.names with
      | nothing _ => exact first
      | category _ finds => exact finds.db.trans first
    have clock : w₂.clock = w.clock := by
      have first := steps.finds.clock
      cases steps.names with
      | nothing _ => exact first
      | category _ finds => exact finds.clock.trans first
    obtain ⟨after, t, v, rfl, stored, -, -, rfl⟩ := save_ok steps.saves
    have same : row.id = product.id := same
    rw [db, clock] at stored
    rcases stored with ⟨free, -⟩ | ⟨loaded, there, found, overwritten, rows⟩
    · exact absurd same (free row mem)
    · obtain rfl := Table.eq_of_id there mem (found.trans same.symm)
      have kept : after.id = product.id := overwrite_id overwritten
      refine ⟨product, w₁, after, steps.finds, same.symm, overwritten, ?_,
        kept.trans same.symm⟩
      rw [written]
      change after ∈ t.rows
      rw [rows]
      exact List.mem_map.mpr ⟨loaded, mem, if_pos same⟩

/-- The values that the patched product has in the columns that the body leaves out, where they
are those of the copy that the cache keeps. -/
structure CopyAgrees (body : Json) (row : Product) (copy : ProductEntity) : Prop where
  name : body.field? "name" = none → copy.name = row.name
  description : body.field? "description" = none → copy.description = row.description
  category : body.field? "categoryId" = none → ∀ reference,
    copy.category = some (some reference) → reference.key = .ok row.categoryId

theorem copyAgrees_related {db : Database} :
    CopyAgrees body row (ProductEntity.related db row) where
  name _ := rfl
  description _ := rfl
  category _ reference h := by
    obtain ⟨category, found, rfl⟩ := Option.map_eq_some_iff.mp (Option.some.inj h)
    have fits := Table.holds_of_find? found
    simp only [Bool.and_eq_true, beq_iff_eq] at fits
    exact congrArg Except.ok fits.1

/-- What a successful update has to meet. -/
structure Patchable (tenantId id : String) (body : Json) (row : Product) (w : World) : Prop where
  active : body.field? "isActive" = none → row.isActive = true
  category : body.field? "categoryId" ≠ some .null
  copy : ∀ copy, (oneView tenantId id).hit w = some copy → CopyAgrees body row copy

/-- The category column of the row that an update writes. -/
theorem category_writes_iff {validators : BodyValidators} {stored after : Uuid}
    (gives : body.Gives "categoryId" validators.uuid dto.categoryId)
    (keyed : foreignKey (patched dto product) (.ok stored) = .ok after) :
    body.Writes "categoryId" (fun json id => ∃ text, json = .str text ∧ uuidIn text = some id)
        stored after ↔
      body.field? "categoryId" ≠ some .null ∧
        (body.field? "categoryId" = none → ∀ reference,
          product.category = some (some reference) → reference.key = .ok stored) := by
  unfold Json.Writes
  generalize h : dto.categoryId = given at gives
  cases gives with
  | absent absent =>
      have unnamed : dto.categoryId.truthy = none := by
        rw [h]
        rfl
      rw [absent]
      cases known : product.category with
      | none =>
          simp only [foreignKey, patched, unnamed, known] at keyed
          cases keyed
          simp
      | some reference =>
          cases reference with
          | none =>
              simp only [foreignKey, patched, unnamed, known] at keyed
              cases keyed
          | some reference =>
              simp only [foreignKey, patched, unnamed, known] at keyed
              simp [keyed]
  | null null => simp [null]
  | @value json text present read =>
      obtain ⟨rfl, filled⟩ := uuid_shows read
      have named : dto.categoryId.truthy = some text := by
        rw [h]
        exact if_neg filled
      have parsed : uuidParam text = .ok after := by
        simpa only [foreignKey, patched, named, CategoryReference.key] using keyed
      rw [present]
      simpa using uuidParam_eq_ok.mp parsed

theorem update_patches_iff {validators : BodyValidators}
    (read : UpdateProductDto.ofBody validators body = some dto)
    (updated : (update context tenantId id dto).runs w = (.ok saved, w'))
    (mem : row ∈ w.db.products) (same : row.id = saved.id) :
    ∃ after ∈ w'.db.products, after.id = row.id ∧
      (row.Patched body after ↔ Patchable tenantId id body row w) := by
  obtain ⟨product, w₁, after, finds, found, overwritten, there, kept⟩ :=
    update_overwrites updated mem same
  refine ⟨after, there, kept, ?_⟩
  obtain ⟨written, stamp, columns, rfl⟩ := overwrite_ok overwritten
  obtain ⟨name, isActive, category, named, active, keyed, rfl⟩ := columns_ok.mp columns
  have dto_read := UpdateProductDto.read read
  obtain ⟨given, gives, initial⟩ := dto_read.isActive
  have active : (given.initially true).assign (some product.isActive) = some isActive := by
    rw [← initial]
    exact active
  have name_iff : body.Writes "name" (fun json name => json = .str name) row.name name ↔
      (body.field? "name" = none → product.name = row.name) :=
    dto_read.name.writes_iff (fun _ _ read => (filledText_shows read).1) named
  have active_iff : body.Writes "isActive" (fun json active => boolean json = some active)
      row.isActive isActive ↔ (body.field? "isActive" = none → true = row.isActive) :=
    gives.initially_writes_iff (fun _ _ read => read) active
  have description_iff : body.Writes "description" (fun json text => json = .nullable .str text)
      row.description (dto.description.assign product.description) ↔
        (body.field? "description" = none → product.description = row.description) :=
    dto_read.description.nullable_writes_iff fun _ _ read => text_shows read
  have category_iff := category_writes_iff dto_read.categoryId keyed
  have source : ∀ copy, (oneView tenantId id).hit w = some copy → copy = product := by
    intro copy hit
    cases finds with
    | hit found => exact Option.some.inj (hit.symm.trans found)
    | miss missed _ =>
        rw [hit] at missed
        cases missed
  constructor
  · rintro ⟨name_ok, description_ok, active_ok, category_ok⟩
    refine ⟨fun absent => (active_iff.mp active_ok absent).symm, (category_iff.mp category_ok).1,
      fun copy hit => ?_⟩
    rw [source copy hit]
    exact ⟨name_iff.mp name_ok, description_iff.mp description_ok,
      (category_iff.mp category_ok).2⟩
  · intro patchable
    have agrees : CopyAgrees body row product := by
      cases finds with
      | hit hit => exact patchable.copy product hit
      | miss _ fresh =>
          obtain ⟨loaded, readable, rfl⟩ := readOne_ok.mp (orMissing_eq_ok.mp fresh)
          obtain rfl := Table.eq_of_id readable.stored mem found
          exact copyAgrees_related
    exact ⟨name_iff.mpr agrees.name, description_iff.mpr agrees.description,
      active_iff.mpr fun absent => (patchable.active absent).symm,
      category_iff.mpr ⟨patchable.category, agrees.category⟩⟩

end ProductService

/-! ## Variants -/

namespace VariantService

variable {context : Option AuditContextData} {tenantId productId variantId : String}
  {dto : UpdateVariantDto} {body : Json} {saved row : ProductVariant} {w w' : World}

theorem update_overwrites
    (updated : (update context tenantId productId variantId dto).runs w = (.ok saved, w'))
    (mem : row ∈ w.db.variants) (same : row.id = saved.id) :
    overwrite (patched dto row) w.clock row = .ok saved ∧ saved ∈ w'.db.variants := by
  rcases update_cases context tenantId productId variantId dto w with
    ⟨⟨e, failed⟩, -⟩ | ⟨variant, answer, w₁, steps, ends⟩
  · rw [updated] at failed
    cases failed
  · rw [updated] at ends
    obtain ⟨rfl, written⟩ : answer = saved ∧ w'.db = w₁.db := by
      generalize finish : recorded context (updateAudit variant answer) w₁ = last at ends
      cases ends with
      | done out =>
          cases out
          exact ⟨rfl, (recorded_db finish).1⟩
      | unaudited out => cases out
    obtain ⟨stored, there, found, overwritten, t, rows, rfl⟩ := save_ok steps.saves
    have kept : answer.id = variant.id := overwrite_id overwritten
    obtain ⟨-, -, read⟩ := readOne_ok steps.finds
    obtain rfl := Table.eq_of_id read mem (kept.symm.trans same.symm)
    obtain rfl := Table.eq_of_id there read found
    refine ⟨overwritten, ?_⟩
    rw [written]
    change answer ∈ t.rows
    rw [rows]
    exact List.mem_map.mpr ⟨stored, mem, if_pos rfl⟩

/-- What a successful update has to meet. -/
structure Patchable (body : Json) (row : ProductVariant) : Prop where
  attributes : body.field? "attributes" = none → row.attributes = .emptyObject
  sku : body.field? "sku" ≠ some .null

theorem sku_writes_iff {validators : BodyValidators} {sku : String}
    (gives : body.Gives "sku" (validators.filledText 3 100) dto.sku) :
    body.Writes "sku" (fun json sku => json = .str sku) sku (dto.sku.truthy.getD sku) ↔
      body.field? "sku" ≠ some .null := by
  unfold Json.Writes
  generalize dto.sku = given at gives
  cases gives with
  | absent absent => simp [absent, Property.truthy]
  | null null => simp [null]
  | @value json text present read =>
      obtain ⟨rfl, filled⟩ := filledText_shows read
      simp [present, Property.truthy, filled]

theorem update_patches_iff {validators : BodyValidators}
    (read : UpdateVariantDto.ofBody validators body = some dto)
    (updated : (update context tenantId productId variantId dto).runs w = (.ok saved, w'))
    (mem : row ∈ w.db.variants) (same : row.id = saved.id) :
    ∃ after ∈ w'.db.variants, after.id = row.id ∧
      (row.Patched validators body after ↔ Patchable body row) := by
  obtain ⟨overwritten, there⟩ := update_overwrites updated mem same
  refine ⟨saved, there, same.symm, ?_⟩
  obtain ⟨price, attributes, stamp, priced, attributed, rfl⟩ := overwrite_ok overwritten
  have dto_read := UpdateVariantDto.read read
  obtain ⟨given, gives, initial⟩ := dto_read.attributes
  have attributed : (given.initially .emptyObject).assign (some row.attributes) =
      some attributes := by
    rw [← initial]
    exact attributed
  have price_iff : body.Writes "price" (fun json price => validators.toNumber json = some price)
      row.price price ↔ (body.field? "price" = none → row.price = row.price) :=
    dto_read.price.writes_iff (fun _ _ read => price_shows read) priced
  have attributes_iff : body.Writes "attributes" (fun json attributes => json = attributes)
      row.attributes attributes ↔
        (body.field? "attributes" = none → .emptyObject = row.attributes) :=
    gives.initially_writes_iff (fun _ _ read => object_shows read) attributed
  have sku_iff : body.Writes "sku" (fun json sku => json = .str sku) row.sku
      (dto.sku.truthy.getD row.sku) ↔ body.field? "sku" ≠ some .null :=
    sku_writes_iff dto_read.sku
  constructor
  · rintro ⟨sku_ok, -, attributes_ok⟩
    exact ⟨fun absent => (attributes_iff.mp attributes_ok absent).symm, sku_iff.mp sku_ok⟩
  · rintro ⟨empty, named⟩
    exact ⟨sku_iff.mpr named, price_iff.mpr fun _ => rfl,
      attributes_iff.mpr fun absent => (empty absent).symm⟩

end VariantService

/-- After an update that succeeds the row keeps what the body leaves out and shows what the body
has, exactly when the body names what the DTOs would otherwise initialise or the row has the
initial value already, a key that is ignored when it is null is not null, and a cached copy of the
product, which the update starts from, is not behind the row. -/
theorem patches_write_what_they_name (validators : BodyValidators)
    (context : Option AuditContextData) (tenantId : String) (body : Json) (w w' : World) :
    (∀ (id : String) (dto : UpdateProductDto) (saved : ProductEntity),
      UpdateProductDto.ofBody validators body = some dto →
      (ProductService.update context tenantId id dto).runs w = (.ok saved, w') →
      ∀ row ∈ w.db.products, row.id = saved.id → ∃ after ∈ w'.db.products,
        after.id = row.id ∧
        (row.Patched body after ↔ ProductService.Patchable tenantId id body row w)) ∧
    (∀ (productId variantId : String) (dto : UpdateVariantDto) (saved : ProductVariant),
      UpdateVariantDto.ofBody validators body = some dto →
      (VariantService.update context tenantId productId variantId dto).runs w = (.ok saved, w') →
      ∀ row ∈ w.db.variants, row.id = saved.id → ∃ after ∈ w'.db.variants,
        after.id = row.id ∧
        (row.Patched validators body after ↔ VariantService.Patchable body row)) :=
  ⟨fun _ _ _ read updated _ mem same => ProductService.update_patches_iff read updated mem same,
    fun _ _ _ _ read updated _ mem same =>
      VariantService.update_patches_iff read updated mem same⟩

namespace SampleShop

def bodyValidators : BodyValidators :=
  ⟨String.length, fun text => (uuidIn text).isSome, fun _ => none⟩

/-- The body that renames a product. -/
def teeBody : Json := .obj [("name", .str "Tee")]

def retired : Database := { unstocked with products := one { product with isActive := false } }

def teeDto : UpdateProductDto :=
  ⟨.value "Tee", .undefined, .undefined, .value true, .undefined⟩

theorem teeBody_read : UpdateProductDto.ofBody bodyValidators teeBody = some teeDto := rfl

def renamed (db : Database) : Except Err ProductEntity × World :=
  (ProductService.update (some context) (uuidOut tenantId) (uuidOut productId) teeDto).runs
    (world db)

theorem renamed_ok (db : Database)
    (h : (renamed db).1.map ProductEntity.id = .ok productId) :
    ∃ saved w', renamed db = (.ok saved, w') ∧ saved.id = productId := by
  cases out : renamed db with
  | mk result w' =>
      rw [out] at h
      cases result with
      | error e => cases h
      | ok saved => exact ⟨saved, w', rfl, Except.ok.inj h⟩

/-- A body that changes the size of the variant and its price. -/
def largeBody : Json := .obj [("sku", .str "TSH-BLU-L"), ("price", .num 25),
  ("attributes", .obj [("size", .str "L")])]

def largeDto : UpdateVariantDto :=
  ⟨.value "TSH-BLU-L", .value 25, .value (.obj [("size", .str "L")])⟩

theorem largeBody_read : UpdateVariantDto.ofBody bodyValidators largeBody = some largeDto := by
  have priced : bodyValidators.price (.num 25) = some 25 := by decide +kernel
  have read : largeBody.property "price" bodyValidators.price = some (.value 25) := by
    show (bodyValidators.price (.num 25)).map Property.value = _
    rw [priced]
    rfl
  unfold UpdateVariantDto.ofBody
  rw [read]
  rfl

/-- The shop, whose variant has a size. -/
def sized : Database := { unstocked with
  variants := one { variant with attributes := .obj [("size", .str "M")] } }

def resized : Except Err ProductVariant × World :=
  (VariantService.update (some context) (uuidOut tenantId) (uuidOut productId) (uuidOut variantId)
    largeDto).runs (world sized)

theorem resized_ok : ∃ saved w', resized = (.ok saved, w') ∧ saved.id = variantId := by
  have h : resized.1.map ProductVariant.id = .ok variantId := by decide +kernel
  cases out : resized with
  | mk result w' =>
      rw [out] at h
      cases result with
      | error e => cases h
      | ok saved => exact ⟨saved, w', rfl, Except.ok.inj h⟩

end SampleShop

open SampleShop

theorem patches_write_what_they_name_tee :
    (∃ w' : World, ∃ after ∈ w'.db.products, after.id = productId ∧
      product.Patched teeBody after) ∧
    ∃ w' : World, ∃ after ∈ w'.db.variants, after.id = variantId ∧
      ({ variant with attributes := .obj [("size", .str "M")] } : ProductVariant).Patched
        bodyValidators largeBody after := by
  constructor
  · obtain ⟨saved, w', updated, same⟩ := renamed_ok unstocked rfl
    obtain ⟨after, mem, kept, iff⟩ :=
      (patches_write_what_they_name bodyValidators (some context)
      (uuidOut tenantId) teeBody (world unstocked) w').1 (uuidOut productId) teeDto saved
        teeBody_read updated product (List.mem_singleton.mpr rfl) same.symm
    exact ⟨w', after, mem, kept, iff.mpr ⟨fun _ => rfl, by decide,
      fun copy hit => by cases hit⟩⟩
  · obtain ⟨saved, w', updated, same⟩ := resized_ok
    obtain ⟨after, mem, kept, iff⟩ :=
      (patches_write_what_they_name bodyValidators (some context)
      (uuidOut tenantId) largeBody (world sized) w').2 (uuidOut productId) (uuidOut variantId)
        largeDto saved largeBody_read updated _ (List.mem_singleton.mpr rfl) same.symm
    exact ⟨w', after, mem, kept, iff.mpr ⟨fun absent => (by cases absent), by decide⟩⟩

/-- Renaming a product that is not active activates it. -/
theorem renamed_product_activated : ¬ ∀ (validators : BodyValidators)
    (context : Option AuditContextData) (tenantId id : String) (body : Json)
    (dto : UpdateProductDto) (w w' : World) (saved : ProductEntity),
      UpdateProductDto.ofBody validators body = some dto →
      (ProductService.update context tenantId id dto).runs w = (.ok saved, w') →
      ∀ row ∈ w.db.products, row.id = saved.id →
        ∀ after ∈ w'.db.products, after.id = row.id → row.Patched body after := by
  intro patched
  obtain ⟨saved, w', updated, same⟩ := renamed_ok retired rfl
  have mem : { product with isActive := false } ∈ retired.products := List.mem_singleton.mpr rfl
  obtain ⟨after, there, kept, iff⟩ :=
    ProductService.update_patches_iff teeBody_read updated mem same.symm
  have active := (iff.mp (patched _ _ _ _ _ _ _ _ _ teeBody_read updated _ mem same.symm _ there
    kept)).active rfl
  cases active

end Tenantory
