import Tenantory.CategoryRuns
import Tenantory.CategoryTree
import Tenantory.RecordedCalls
import Tenantory.SampleShop
import Tenantory.SupplierService
import Tenantory.TenantSettingService
import Tenantory.TenantUserManagementService
import Tenantory.WarehouseService

/-! The audit trail of the operations that create, update and remove: an operation that
answers has written to the database and then emitted one event about it, and one that
throws has done neither. -/

namespace Tenantory

open UuidText Svc

/-! ## Entries -/

/-- What an audit event says of a write. -/
structure AuditEntry where
  action : AuditAction
  entityType : AuditedEntityType
  entityId : Uuid
  oldValues : Option Json
  newValues : Option Json

def AuditEntry.input (entry : AuditEntry) : AuditEventInput where
  action := entry.action
  entityType := entry.entityType
  entityId := uuidOut entry.entityId
  oldValues := entry.oldValues
  newValues := entry.newValues
  metadata := none
  actorId := none

/-- The event has the entry in it and names the tenant. -/
structure AuditEvent.Tells (event : AuditEvent) (tenant : String) (entry : AuditEntry) : Prop where
  tenantId : event.tenantId = tenant
  action : event.action = entry.action
  entityType : event.entityType = entry.entityType
  entityId : event.entityId = uuidOut entry.entityId
  oldValues : event.oldValues = entry.oldValues
  newValues : event.newValues = entry.newValues

/-- One statement took the tables as they were in `w` to what they are in `w'`, and after
it one event was emitted, about the entry of that statement. -/
structure Trailed (writes : World → World → AuditEntry → Prop) (tenant : String)
    (w w' : World)
    (marks : List Mark) : Prop where
  marks : marks = [.written, .emitted]
  event : ∃ v v' entry event, Kept w v ∧ writes v v' entry ∧ w'.db = v'.db ∧
    w'.journal = w.journal ++ [.auditLog event] ∧ event.Tells tenant entry

/-- Nothing was written and nothing was emitted. -/
structure Trackless (w w' : World) (marks : List Mark) : Prop where
  marks : marks = []
  db : w'.db = w.db
  journal : w'.journal = w.journal

theorem Trackless.not_trailed {writes : World → World → AuditEntry → Prop} {tenant : String}
    {w w' : World} {marks : List Mark} (trackless : Trackless w w' marks) :
    ¬ Trailed writes tenant w w' marks := fun trailed =>
  nomatch trackless.marks.symm.trans trailed.marks

/-! ## Operations step by step -/

theorem World.insert_journal {ρ : Type} [Stored ρ] {build : Uuid → Timestamp → ρ}
    {w w' : World}
    {row : ρ} (h : w.insert build = .ok (row, w')) : w'.journal = w.journal := by
  obtain ⟨db, -, last⟩ := bind_eq_ok.mp h
  cases last
  rfl

theorem World.update_journal {ρ : Type} [Stored ρ] {i : Uuid} {f : ρ → ρ} {w w' : World}
    (h : w.update i f = .ok w') : w'.journal = w.journal := by
  obtain ⟨db, -, last⟩ := bind_eq_ok.mp h
  cases last
  rfl

theorem World.updates_journal {ρ β : Type} [Stored ρ] {ident : β → Uuid}
    {f : World → ρ → ρ}
    {items : List β} {w w' : World}
    (h : items.foldlM (fun w item => w.update (ident item) (f w)) w = .ok w') :
    w'.journal = w.journal := by
  induction items generalizing w with
  | nil =>
      cases h
      rfl
  | cons item items ih =>
      obtain ⟨v, updated, rest⟩ := bind_eq_ok.mp h
      exact (ih rest).trans (World.update_journal updated)

/-- What an operation leaves that started in `w`. -/
def Trail (writes : World → World → AuditEntry → Prop) (tenant : String)
    (w : World) {α : Type} :
    Except Err α → World → List Mark → Prop
  | .ok _, w', marks => Trailed writes tenant w w' marks
  | .error _, w', marks => Trackless w w' marks

section Steps

variable {α β : Type} {writes : World → World → AuditEntry → Prop} {tenant : String}
  {data : AuditContextData} {w v : World}

theorem Svc.Kept.trackless (kept : Kept w v) : Trackless w v [] := ⟨rfl, kept.db, kept.journal⟩

theorem trails_throw {e : Err} (kept : Kept w v) :
    After (throw e : Svc α) (Trail writes tenant w) v [] := kept.trackless

theorem trails_ite {p q : Svc α} {c : Prop} [Decidable c]
    (yes : c → After p (Trail writes tenant w) v [])
    (no : ¬ c → After q (Trail writes tenant w) v []) :
    After (if c then p else q) (Trail writes tenant w) v [] := by
  split
  · rename_i h
    exact yes h
  · rename_i h
    exact no h

theorem trails_reads {P : α → Prop} {p : Svc α} {f : α → Svc β} (first : Reads w v p P)
    (rest : ∀ a v', P a → Kept w v' → After (f a) (Trail writes tenant w) v' []) :
    After (p >>= f) (Trail writes tenant w) v [] := by
  refine after_bind ((first []).mono fun answer v' marks read => ?_)
  obtain ⟨kept, same, answered⟩ := read
  subst same
  cases answer with
  | ok a => exact rest a v' (answered a rfl) kept
  | error e => exact kept.trackless

/-- A handler that only throws leaves the trail of what it handles. -/
theorem trails_tryCatch {p : Svc α} {handle : Err → Svc α}
    (h : After p (Trail writes tenant w) v [])
    (throws : ∀ e, ∃ e', handle e = throw e') :
    After (tryCatch p handle) (Trail writes tenant w) v [] := by
  refine after_tryCatch (h.mono fun answer v' marks trail => ?_)
  cases answer with
  | ok a => exact trail
  | error e =>
      obtain ⟨e', thrown⟩ := throws e
      dsimp only
      rw [thrown]
      exact trail

theorem trails_translated {taken : Err} {p : Svc α} (h : After p (Trail writes tenant w) v []) :
    After (translated taken p) (Trail writes tenant w) v [] :=
  trails_tryCatch h fun e => by
    by_cases unique : isUniqueViolation e = true
    · exact ⟨taken, if_pos unique⟩
    · exact ⟨e, if_neg unique⟩

theorem trails_statement {label : Label} {act : World → Except Err (α × World)}
    {f : α → Svc β}
    (marked : label.mark = some .written) (kept : Kept w v)
    (done : ∀ a v', act v = .ok (a, v') → After (f a) (Trail writes tenant w) v' [.written]) :
    After (statement label act >>= f) (Trail writes tenant w) v [] :=
  after_bind (after_statement marked done fun _ => kept.trackless)

theorem trails_saving {entity : StoredObject}
    {act : Database → World → Except Err (α × World)}
    {f : α → Svc β} (kept : Kept w v)
    (done : ∀ a v', act v.db v = .ok (a, v') →
      After (f a) (Trail writes tenant w) v' [.written]) :
    After (saving entity act >>= f) (Trail writes tenant w) v [] := by
  rw [saving, bind_assoc]
  refine after_bind (after_query (fun r answered => ?_) fun _ => kept.trackless)
  subst answered
  exact trails_statement rfl kept done

theorem trails_softRemoving {entity : StoredObject}
    {act : Database → World → Except Err (α × World)} {f : α → Svc β} (kept : Kept w v)
    (done : ∀ a v', act v.db v = .ok (a, v') →
      After (f a) (Trail writes tenant w) v' [.written]) :
    After (softRemoving entity act >>= f) (Trail writes tenant w) v [] := by
  rw [softRemoving, bind_assoc]
  refine after_bind (after_query (fun r answered => ?_) fun _ => kept.trackless)
  subst answered
  exact trails_statement rfl kept done

variable (named : data.tenantId = some tenant) (some_text : tenant ≠ "")

include named some_text

/-- The event of a statement that has just been made, and what follows it. -/
theorem trails_record {input : AuditEventInput} {entry : AuditEntry} {rest : Unit → Svc α}
    {v' : World} (kept : Kept w v) (wrote : writes v v' entry) (told : input = entry.input)
    (journal : v'.journal = v.journal) (quiet : ∀ u, Quiet (rest u)) :
    After (AuditService.record (some data) input >>= rest) (Trail writes tenant w) v'
      [.written] := by
  subst told
  obtain ⟨event, found, tells⟩ : ∃ event,
      AuditService.event? (some data) entry.input = some event ∧ event.Tells tenant entry := by
    refine ⟨{
      tenantId := tenant
      actorId := data.actorId
      action := entry.action
      entityType := entry.entityType
      entityId := uuidOut entry.entityId
      oldValues := entry.oldValues
      newValues := entry.newValues
      metadata := AuditService.metadata data entry.input }, ?_, rfl, rfl, rfl, rfl, rfl, rfl⟩
    simp only [AuditService.event?, named, Option.bind_eq_bind, Option.bind_some, if_neg some_text]
    rfl
  refine after_bind ?_
  rw [AuditService.record, found]
  refine after_emit ((quiet () _ _).mono fun answer w' marks silent => ?_)
  obtain ⟨⟨a, rfl⟩, db, told, same⟩ := silent
  refine ⟨same, v, v', entry, event, kept, wrote, db, ?_, tells⟩
  rw [told, journal, kept.journal]

theorem trails_recorded {input : AuditEventInput} {entry : AuditEntry} {v' : World}
    (kept : Kept w v) (wrote : writes v v' entry) (told : input = entry.input)
    (journal : v'.journal = v.journal) :
    After (AuditService.record (some data) input) (Trail writes tenant w) v' [.written] := by
  rw [← bind_pure (AuditService.record (some data) input)]
  exact trails_record named some_text kept wrote told journal quiet_pure

end Steps

/-! ## The operations -/

inductive AuditedOp
  | createCategory (dto : CreateCategoryDto)
  | updateCategory (id : String) (dto : UpdateCategoryDto)
  | removeCategory (id : String)
  | createProduct (dto : CreateProductDto)
  | updateProduct (id : String) (dto : UpdateProductDto)
  | removeProduct (id : String)
  | createVariant (productId : String) (dto : CreateVariantDto)
  | updateVariant (productId variantId : String) (dto : UpdateVariantDto)
  | removeVariant (productId variantId : String)
  | createWarehouse (dto : CreateWarehouseDto)
  | updateWarehouse (id : String) (dto : UpdateWarehouseDto)
  | removeWarehouse (id : String)
  | createSupplier (dto : CreateSupplierDto)
  | updateSupplier (id : String) (dto : UpdateSupplierDto)
  | removeSupplier (id : String)
  | inviteUser (dto : InviteUserDto)
  | updateUserRole (userId : String) (dto : UpdateUserRoleDto)
  | updateSettings (dto : UpdateSettingsDto)

def AuditedOp.program (platform : Platform) (bcrypt : Bcrypt) (context : Option AuditContextData)
    (tenantId : String) : AuditedOp → Svc Unit
  | createCategory dto => discard (CategoryService.create platform context tenantId dto)
  | updateCategory id dto => discard (CategoryService.update platform context tenantId id dto)
  | removeCategory id => CategoryService.remove context tenantId id
  | createProduct dto => discard (ProductService.create context tenantId dto)
  | updateProduct id dto => discard (ProductService.update context tenantId id dto)
  | removeProduct id => ProductService.remove context tenantId id
  | createVariant productId dto =>
      discard (VariantService.create context tenantId productId dto)
  | updateVariant productId variantId dto =>
      discard (VariantService.update context tenantId productId variantId dto)
  | removeVariant productId variantId =>
      VariantService.remove context tenantId productId variantId
  | createWarehouse dto => discard (WarehouseService.create context tenantId dto)
  | updateWarehouse id dto => discard (WarehouseService.update context tenantId id dto)
  | removeWarehouse id => WarehouseService.remove context tenantId id
  | createSupplier dto => discard (SupplierService.create context tenantId dto)
  | updateSupplier id dto => discard (SupplierService.update context tenantId id dto)
  | removeSupplier id => SupplierService.remove context tenantId id
  | inviteUser dto => discard (TenantUserManagementService.inviteUser bcrypt context tenantId dto)
  | updateUserRole userId dto =>
      discard (TenantUserManagementService.updateUserRole context tenantId userId dto)
  | updateSettings dto => discard (TenantSettingService.updateSettings context tenantId dto)

/-- The category that a call finds under an id: the cached one, or the stored one. -/
def CategoryService.Holds (tenantId id : String) (w : World) (target : CategoryEntity) : Prop :=
  (w.cached (CacheKeys.category tenantId id)).bind Cached.category? = some target ∨
    readOne tenantId id w = .ok (some target)

/-- The product that a call finds under an id: the cached one, or the stored one. -/
def ProductService.Holds (tenantId id : String) (w : World) (product : ProductEntity) : Prop :=
  (w.cached (CacheKeys.product tenantId id)).bind Cached.product? = some product ∨
    readOne tenantId id w = .ok (some product)

/-- A statement of an operation that started in `w`: it takes `v` to `v'`, and the entry
has the id of the row it writes, the values that were read before and those it saves. -/
inductive AuditedOp.Writes (platform : Platform) (bcrypt : Bcrypt) (tenantId : String) (w : World) :
    AuditedOp → World → World → AuditEntry → Prop
  | createCategory {dto v v'} {parent : Option Category} {saved : CategoryEntity} :
      CategoryService.insert tenantId dto.name (CategoryService.newCategorySlug platform dto) parent
        v = .ok (saved, v') →
      Writes platform bcrypt tenantId w (.createCategory dto) v v'
        { action := .create
          entityType := .category
          entityId := saved.id
          oldValues := none
          newValues := some (.obj [("name", .str saved.name), ("slug", .str saved.slug)]) }
  | updateCategory {id dto v v'} {target saved : CategoryEntity}
      {parent : Option (Option CategoryColumns)} :
      CategoryService.Holds tenantId id w target →
      CategoryService.saveLoaded (CategoryService.edited platform dto target parent) v.db v =
        .ok (saved, v') →
      Writes platform bcrypt tenantId w (.updateCategory id dto) v v'
        { action := .update
          entityType := .category
          entityId := saved.id
          oldValues := some (.obj [("name", .str target.name), ("slug", .str target.slug),
            ("parentId", CategoryService.nullableId target.parentId)])
          newValues := some (.obj [("name", .str saved.name), ("slug", .str saved.slug),
            ("parentId", CategoryService.nullableId saved.parentId)]) }
  | removeCategory {id v v'} {target : CategoryEntity} :
      CategoryService.Holds tenantId id w target →
      CategoryService.softRemoveLoaded target v.db v = .ok ((), v') →
      Writes platform bcrypt tenantId w (.removeCategory id) v v'
        { action := .delete
          entityType := .category
          entityId := target.id
          oldValues := some (.obj [("name", .str target.name), ("slug", .str target.slug)])
          newValues := none }
  | createProduct {dto v v'} {saved : ProductEntity} :
      ProductService.insert tenantId dto v = .ok (saved, v') →
      Writes platform bcrypt tenantId w (.createProduct dto) v v'
        { action := .create
          entityType := .product
          entityId := saved.id
          oldValues := none
          newValues := some (.literal [("name", some (.str saved.name)),
            ("skuPrefix", some (.str saved.skuPrefix)),
            ("categoryId", some (.nullable .str saved.categoryId)),
            ("isActive", some (.bool saved.isActive)),
            ("description", dto.description.toJson .str)]) }
  | updateProduct {id dto v v'} {product saved : ProductEntity} :
      ProductService.Holds tenantId id w product →
      ProductService.saveLoaded (ProductService.patched dto product) v.db v = .ok (saved, v') →
      Writes platform bcrypt tenantId w (.updateProduct id dto) v v'
        { action := .update
          entityType := .product
          entityId := saved.id
          oldValues := some (ProductService.auditValues product)
          newValues := some (ProductService.auditValues saved) }
  | removeProduct {id v v'} {product : ProductEntity} :
      ProductService.Holds tenantId id w product →
      ProductService.softRemoveLoaded product v.db v = .ok ((), v') →
      Writes platform bcrypt tenantId w (.removeProduct id) v v'
        { action := .deleteProduct
          entityType := .product
          entityId := product.id
          oldValues := some (.obj [("name", .str product.name),
            ("skuPrefix", .str product.skuPrefix),
            ("categoryId", .nullable .str product.categoryId),
            ("isActive", .bool product.isActive)])
          newValues := none }
  | createVariant {productId dto v v'} {saved : ProductVariant} :
      VariantService.insert tenantId productId dto v = .ok (saved, v') →
      Writes platform bcrypt tenantId w (.createVariant productId dto) v v'
        { action := .create
          entityType := .productVariant
          entityId := saved.id
          oldValues := none
          newValues := some (.obj [("sku", .str saved.sku), ("price", .num saved.price),
            ("productId", .str productId)]) }
  | updateVariant {productId variantId dto v v'} {variant saved : ProductVariant} :
      VariantService.readOne tenantId productId variantId w = .ok (some variant) →
      VariantService.saveLoaded (VariantService.patched dto variant) v.db v = .ok (saved, v') →
      Writes platform bcrypt tenantId w (.updateVariant productId variantId dto) v v'
        { action := .update
          entityType := .productVariant
          entityId := saved.id
          oldValues := some (VariantService.auditValues variant)
          newValues := some (VariantService.auditValues saved) }
  | removeVariant {productId variantId v v'} {variant : ProductVariant} :
      VariantService.readOne tenantId productId variantId w = .ok (some variant) →
      VariantService.softRemove variant v = .ok ((), v') →
      Writes platform bcrypt tenantId w (.removeVariant productId variantId) v v'
        { action := .delete
          entityType := .productVariant
          entityId := variant.id
          oldValues := some (VariantService.auditValues variant)
          newValues := none }
  | createWarehouse {dto v v'} {saved : Warehouse} :
      WarehouseService.insert tenantId dto v = .ok (saved, v') →
      Writes platform bcrypt tenantId w (.createWarehouse dto) v v'
        { action := .create
          entityType := .warehouse
          entityId := saved.id
          oldValues := none
          newValues := some (.literal [("name", some (.str saved.name)),
            ("location", dto.location.toJson .str)]) }
  | updateWarehouse {id dto v v'} {tenant i : Uuid} {warehouse saved : Warehouse} :
      uuidParam tenantId = .ok tenant → uuidParam id = .ok i →
      WarehouseService.readById w.db tenant i = some warehouse →
      WarehouseService.saveLoaded (WarehouseService.patched dto warehouse) v.db v =
        .ok (saved, v') →
      Writes platform bcrypt tenantId w (.updateWarehouse id dto) v v'
        { action := .update
          entityType := .warehouse
          entityId := saved.id
          oldValues := some (WarehouseService.auditValues warehouse)
          newValues := some (WarehouseService.auditValues saved) }
  | removeWarehouse {id v v'} {tenant i : Uuid} {warehouse : Warehouse} :
      uuidParam tenantId = .ok tenant → uuidParam id = .ok i →
      WarehouseService.readById w.db tenant i = some warehouse →
      WarehouseService.softRemove warehouse v = .ok ((), v') →
      Writes platform bcrypt tenantId w (.removeWarehouse id) v v'
        { action := .delete
          entityType := .warehouse
          entityId := warehouse.id
          oldValues := some (WarehouseService.auditValues warehouse)
          newValues := none }
  | createSupplier {dto v v'} {saved : Supplier} :
      SupplierService.insert tenantId dto v = .ok (saved, v') →
      Writes platform bcrypt tenantId w (.createSupplier dto) v v'
        { action := .create
          entityType := .supplier
          entityId := saved.id
          oldValues := none
          newValues := some (.literal [("companyName", some (.str saved.companyName)),
            ("contactEmail", dto.contactEmail.toJson .str),
            ("leadTimeDays", dto.leadTimeDays.toJson SupplierService.jsonInt)]) }
  | updateSupplier {id dto v v'} {supplier saved : Supplier} :
      SupplierService.readOne tenantId id w = .ok (some supplier) →
      SupplierService.saveLoaded (SupplierService.patched dto supplier) v.db v = .ok (saved, v') →
      Writes platform bcrypt tenantId w (.updateSupplier id dto) v v'
        { action := .update
          entityType := .supplier
          entityId := saved.id
          oldValues := some (SupplierService.auditValues supplier)
          newValues := some (SupplierService.auditValues saved) }
  | removeSupplier {id v v'} {supplier : Supplier} :
      SupplierService.readOne tenantId id w = .ok (some supplier) →
      SupplierService.softRemove supplier v = .ok ((), v') →
      Writes platform bcrypt tenantId w (.removeSupplier id) v v'
        { action := .delete
          entityType := .supplier
          entityId := supplier.id
          oldValues := some (.obj [("companyName", .str supplier.companyName)])
          newValues := none }
  | inviteUser {dto v v'} {saved : User} :
      TenantUserManagementService.insert
        { tenantId, email := dto.email, firstName := dto.firstName, lastName := dto.lastName,
          passwordHash := bcrypt.hash dto.password 12, role := dto.role } v = .ok (saved, v') →
      Writes platform bcrypt tenantId w (.inviteUser dto) v v'
        { action := .create
          entityType := .user
          entityId := saved.id
          oldValues := none
          newValues := some (.obj [("email", .str saved.email),
            ("firstName", .str saved.firstName), ("lastName", .str saved.lastName),
            ("role", saved.role.toJson)]) }
  | updateUserRole {userId dto v v'} {user saved : User} :
      TenantUserManagementService.readById tenantId userId w = .ok (some user) →
      TenantUserManagementService.saveLoaded { user with role := dto.role } v.db v =
        .ok (saved, v') →
      Writes platform bcrypt tenantId w (.updateUserRole userId dto) v v'
        { action := .update
          entityType := .user
          entityId := saved.id
          oldValues := some (.obj [("role", user.role.toJson)])
          newValues := some (.obj [("role", saved.role.toJson)]) }
  | updateSettings {dto v v'} {settings saved : TenantSetting} :
      TenantSettingService.readByTenant tenantId w = .ok (some settings) →
      TenantSettingService.saveLoaded (TenantSettingService.merged dto settings) v.db v =
        .ok (saved, v') →
      Writes platform bcrypt tenantId w (.updateSettings dto) v v'
        { action := .update
          entityType := .tenantSetting
          entityId := saved.id
          oldValues := some (.obj [("config", settings.config)])
          newValues := some (.obj [("config", saved.config)]) }

/-! ## Every operation leaves its trail -/

section Operations

variable {platform : Platform} {bcrypt : Bcrypt} {tenantId tenant : String}
  {data : AuditContextData} {w v v' : World}

/-- The service leaves the trail of the operation, whatever its calls answer. -/
abbrev AuditedOp.Trails (op : AuditedOp) (platform : Platform) (bcrypt : Bcrypt)
    (tenantId tenant : String) (w : World) {α : Type} (p : Svc α) : Prop :=
  After p (Trail (op.Writes platform bcrypt tenantId w) tenant w) w []

namespace CategoryService

variable {id : String}

theorem insert_journal {name slug : String} {parent : Option Category} {saved : CategoryEntity}
    (h : insert tenantId name slug parent v = .ok (saved, v')) : v'.journal = v.journal := by
  obtain ⟨owner, -, h⟩ := bind_eq_ok.mp h
  obtain ⟨⟨row, u⟩, inserted, last⟩ := bind_eq_ok.mp h
  cases last
  exact World.insert_journal inserted

theorem saveChildren_journal {entity : CategoryEntity} {loaded : Database}
    (h : saveChildren entity loaded v = .ok v') : v'.journal = v.journal := by
  unfold saveChildren at h
  cases listed : entity.children with
  | none =>
      rw [listed] at h
      cases h
      rfl
  | some children =>
      rw [listed] at h
      obtain ⟨u, bound, removed⟩ := bind_eq_ok.mp h
      exact (World.updates_journal removed).trans (World.updates_journal bound)

theorem saveLoaded_journal {entity saved : CategoryEntity} {loaded : Database}
    (h : saveLoaded entity loaded v = .ok (saved, v')) : v'.journal = v.journal := by
  unfold saveLoaded at h
  split at h
  · cases h
  · obtain ⟨u, updated, h⟩ := bind_eq_ok.mp h
    obtain ⟨u', children, last⟩ := bind_eq_ok.mp h
    cases last
    exact (saveChildren_journal children).trans (World.update_journal updated)

theorem softRemoveLoaded_journal {entity : CategoryEntity} {loaded : Database}
    (h : softRemoveLoaded entity loaded v = .ok ((), v')) : v'.journal = v.journal := by
  obtain ⟨u, children, h⟩ := bind_eq_ok.mp h
  obtain ⟨u', updated, last⟩ := bind_eq_ok.mp h
  cases last
  exact (World.update_journal updated).trans (saveChildren_journal children)

theorem reads_findOne (tenantId id : String) (w : World) :
    Reads w w (findOne tenantId id) (Holds tenantId id w) :=
  reads_cached (fun _ => rfl) rfl rfl (fun _ => rfl) (Kept.refl w) (fun _ hit => .inl hit)
    fun _ read => .inr read

/-- A lookup of another category than the one that is written. -/
theorem reads_findAny (id : String) (kept : Kept w v) :
    Reads w v (findOne tenantId id) fun _ => True :=
  reads_cached (fun _ => rfl) rfl rfl (fun _ => rfl) kept (fun _ _ => trivial) fun _ _ => trivial

theorem reads_assertParentExists (parentId : String) (kept : Kept w v) :
    Reads w v (assertParentExists tenantId parentId) fun _ => True :=
  reads_found rfl rfl (fun _ => rfl) kept fun _ _ => trivial

theorem reads_chooseParent (parentId : Property String) (current : Option (Option CategoryColumns))
    (kept : Kept w v) :
    Reads w v (chooseParent tenantId id parentId current) fun _ => True := by
  cases parentId with
  | undefined => exact reads_pure kept trivial
  | null => exact reads_pure kept trivial
  | value parentId =>
      refine reads_ite (fun _ => reads_throw kept) fun _ => ?_
      refine reads_ite (fun _ => reads_pure kept trivial) fun _ => ?_
      exact reads_bind (reads_assertParentExists parentId kept) fun _ _ _ kept =>
        reads_pure kept trivial

theorem quiet_invalidateCollections (tenantId : String) : Quiet (invalidateCollections tenantId) :=
  quiet_bind (quiet_delByPattern _) fun _ => quiet_delByPattern _

variable (named : data.tenantId = some tenant) (some_text : tenant ≠ "")

include named some_text

theorem create_trails (dto : CreateCategoryDto) :
    (AuditedOp.createCategory dto).Trails platform bcrypt tenantId tenant w
      (create platform (some data) tenantId dto) := by
  refine trails_reads (reads_check rfl (Kept.refl w)) fun _ v _ kept => ?_
  refine trails_reads (reads_mapM _ kept fun parentId => reads_assertParentExists parentId kept)
    fun parent v _ kept => trails_translated ?_
  refine trails_statement rfl kept fun saved v' inserted => ?_
  exact trails_record named some_text kept (AuditedOp.Writes.createCategory inserted)
    rfl (insert_journal inserted) fun _ => quiet_bind (quiet_invalidateCollections tenantId)
      fun _ => quiet_pure saved

theorem update_trails (dto : UpdateCategoryDto) :
    (AuditedOp.updateCategory id dto).Trails platform bcrypt tenantId tenant w
      (update platform (some data) tenantId id dto) := by
  refine trails_reads (reads_findOne tenantId id w) fun target v held kept => ?_
  refine trails_reads (reads_check rfl kept) fun _ v _ kept => ?_
  refine trails_reads (reads_chooseParent dto.parentId target.parent kept) fun parent v _ kept => ?_
  refine trails_translated (trails_saving kept fun saved v' written => ?_)
  exact trails_record named some_text kept (AuditedOp.Writes.updateCategory held written)
    rfl (saveLoaded_journal written) fun _ => quiet_bind (quiet_del _) fun _ =>
      quiet_bind (quiet_invalidateCollections tenantId) fun _ => quiet_pure saved

theorem remove_trails :
    (AuditedOp.removeCategory id).Trails platform bcrypt tenantId tenant w
      (remove (some data) tenantId id) := by
  refine trails_reads (reads_findOne tenantId id w) fun target v held kept => ?_
  refine trails_reads (P := fun _ => True) (reads_query kept fun _ _ => trivial)
    fun children v _ kept => ?_
  refine trails_ite (fun _ => trails_throw kept) fun _ => ?_
  refine trails_softRemoving kept fun _ v' removed => ?_
  exact trails_record named some_text kept (AuditedOp.Writes.removeCategory held removed)
    rfl (softRemoveLoaded_journal removed) fun _ => quiet_bind (quiet_del _) fun _ =>
      quiet_invalidateCollections tenantId

end CategoryService

namespace ProductService

variable {id : String}

theorem insert_journal {dto : CreateProductDto} {saved : ProductEntity}
    (h : insert tenantId dto v = .ok (saved, v')) : v'.journal = v.journal := by
  obtain ⟨owner, -, h⟩ := bind_eq_ok.mp h
  obtain ⟨category, -, h⟩ := bind_eq_ok.mp h
  obtain ⟨isActive, -, h⟩ := bind_eq_ok.mp h
  obtain ⟨⟨row, u⟩, inserted, last⟩ := bind_eq_ok.mp h
  cases last
  exact World.insert_journal inserted

theorem saveVariants_journal {entity : ProductEntity} {loaded : Database}
    (h : saveVariants entity loaded v = .ok v') : v'.journal = v.journal := by
  unfold saveVariants at h
  cases listed : entity.variants with
  | none =>
      rw [listed] at h
      cases h
      rfl
  | some variants =>
      rw [listed] at h
      dsimp only at h
      split at h
      · exact World.updates_journal h
      · cases h

theorem saveLoaded_journal {draft : Draft} {saved : ProductEntity} {loaded : Database}
    (h : saveLoaded draft loaded v = .ok (saved, v')) : v'.journal = v.journal := by
  unfold saveLoaded at h
  split at h
  · obtain ⟨row, -, h⟩ := bind_eq_ok.mp h
    obtain ⟨db, -, h⟩ := bind_eq_ok.mp h
    obtain ⟨u, variants, last⟩ := bind_eq_ok.mp h
    cases last
    have kept := saveVariants_journal variants
    exact kept
  · obtain ⟨row, -, h⟩ := bind_eq_ok.mp h
    obtain ⟨u, updated, h⟩ := bind_eq_ok.mp h
    obtain ⟨u', variants, last⟩ := bind_eq_ok.mp h
    cases last
    exact (saveVariants_journal variants).trans (World.update_journal updated)

theorem softRemoveLoaded_journal {entity : ProductEntity} {loaded : Database}
    (h : softRemoveLoaded entity loaded v = .ok ((), v')) : v'.journal = v.journal := by
  obtain ⟨u, variants, h⟩ := bind_eq_ok.mp h
  obtain ⟨u', updated, last⟩ := bind_eq_ok.mp h
  cases last
  exact (World.update_journal updated).trans (saveVariants_journal variants)

theorem reads_findOne (tenantId id : String) (w : World) :
    Reads w w (findOne tenantId id) (Holds tenantId id w) :=
  reads_cached (fun _ => rfl) rfl rfl (fun _ => rfl) (Kept.refl w) (fun _ hit => .inl hit)
    fun _ read => .inr read

variable (named : data.tenantId = some tenant) (some_text : tenant ≠ "")

include named some_text

theorem create_trails (dto : CreateProductDto) :
    (AuditedOp.createProduct dto).Trails platform bcrypt tenantId tenant w
      (create (some data) tenantId dto) := by
  refine trails_reads (CategoryService.reads_findAny _ (Kept.refl w)) fun _ v _ kept => ?_
  refine trails_reads (reads_check rfl kept) fun _ v _ kept => trails_translated ?_
  refine trails_statement rfl kept fun saved v' inserted => ?_
  exact trails_record named some_text kept (AuditedOp.Writes.createProduct inserted)
    rfl (insert_journal inserted) fun _ => quiet_bind (quiet_delByPattern _)
      fun _ => quiet_pure saved

theorem update_trails (dto : UpdateProductDto) :
    (AuditedOp.updateProduct id dto).Trails platform bcrypt tenantId tenant w
      (update (some data) tenantId id dto) := by
  refine trails_reads (reads_findOne tenantId id w) fun product v held kept => ?_
  refine trails_ite (fun _ => trails_throw kept) fun _ => ?_
  refine trails_reads (reads_mapM _ kept fun categoryId =>
    CategoryService.reads_findAny categoryId kept) fun _ v _ kept => trails_translated ?_
  refine trails_saving kept fun saved v' written => ?_
  exact trails_record named some_text kept (AuditedOp.Writes.updateProduct held written)
    rfl (saveLoaded_journal written) fun _ => quiet_bind (quiet_del _) fun _ =>
      quiet_bind (quiet_delByPattern _) fun _ => quiet_pure saved

theorem remove_trails :
    (AuditedOp.removeProduct id).Trails platform bcrypt tenantId tenant w
      (remove (some data) tenantId id) := by
  refine trails_reads (reads_findOne tenantId id w) fun product v held kept => ?_
  refine trails_reads (P := fun _ => True) (reads_query kept fun _ _ => trivial)
    fun variants v _ kept => ?_
  refine trails_ite (fun _ => trails_throw kept) fun _ => ?_
  refine trails_softRemoving kept fun _ v' removed => ?_
  exact trails_record named some_text kept (AuditedOp.Writes.removeProduct held removed)
    rfl (softRemoveLoaded_journal removed) fun _ => quiet_bind (quiet_del _) fun _ =>
      quiet_delByPattern _

end ProductService

namespace VariantService

variable {productId variantId : String}

theorem insert_journal {dto : CreateVariantDto} {saved : ProductVariant}
    (h : insert tenantId productId dto v = .ok (saved, v')) : v'.journal = v.journal := by
  obtain ⟨owner, -, h⟩ := bind_eq_ok.mp h
  obtain ⟨product, -, inserted⟩ := bind_eq_ok.mp h
  exact World.insert_journal inserted

theorem saveLoaded_journal {draft : Draft} {saved : ProductVariant} {loaded : Database}
    (h : saveLoaded draft loaded v = .ok (saved, v')) : v'.journal = v.journal := by
  unfold saveLoaded at h
  split at h
  · cases h
  · obtain ⟨row, -, h⟩ := bind_eq_ok.mp h
    obtain ⟨u, updated, last⟩ := bind_eq_ok.mp h
    cases last
    exact World.update_journal updated

theorem softRemove_journal {entity : ProductVariant}
    (h : softRemove entity v = .ok ((), v')) : v'.journal = v.journal := by
  obtain ⟨u, updated, last⟩ := bind_eq_ok.mp h
  cases last
  exact World.update_journal updated

theorem reads_findOne (tenantId productId variantId : String) (w : World) :
    Reads w w (findOne tenantId productId variantId) fun variant =>
      readOne tenantId productId variantId w = .ok (some variant) :=
  reads_found rfl rfl (fun _ => rfl) (Kept.refl w) fun _ read => read

theorem reads_findProduct (productId : String) (kept : Kept w v) :
    Reads w v (findProduct tenantId productId) fun _ => True :=
  reads_found rfl rfl (fun _ => rfl) kept fun _ _ => trivial

variable (named : data.tenantId = some tenant) (some_text : tenant ≠ "")

include named some_text

theorem create_trails (dto : CreateVariantDto) :
    (AuditedOp.createVariant productId dto).Trails platform bcrypt tenantId tenant w
      (create (some data) tenantId productId dto) := by
  refine trails_reads (reads_findProduct _ (Kept.refl w)) fun _ v _ kept => ?_
  refine trails_reads (reads_check rfl kept) fun _ v _ kept => trails_translated ?_
  refine trails_statement rfl kept fun saved v' inserted => ?_
  exact trails_record named some_text kept (AuditedOp.Writes.createVariant inserted)
    rfl (insert_journal inserted) fun _ => quiet_pure saved

theorem update_trails (dto : UpdateVariantDto) :
    (AuditedOp.updateVariant productId variantId dto).Trails platform bcrypt tenantId tenant w
      (update (some data) tenantId productId variantId dto) := by
  refine trails_reads (reads_findOne tenantId productId variantId w) fun variant v held kept => ?_
  have saves : ∀ v, Kept w v → After (translated skuTaken do
      let draft := patched dto variant
      let saved ← saving (.variant draft.entity) (saveLoaded draft)
      AuditService.record (some data) (updateAudit variant saved)
      pure saved) (Trail ((AuditedOp.updateVariant productId variantId dto).Writes platform bcrypt
        tenantId w) tenant w) v [] := by
    refine fun v kept => trails_translated (trails_saving kept fun saved v' written => ?_)
    exact trails_record named some_text kept (AuditedOp.Writes.updateVariant held written)
      rfl (saveLoaded_journal written) fun _ => quiet_pure saved
  cases dto.sku.truthy with
  | none => exact saves v kept
  | some sku =>
      dsimp only
      refine trails_ite (fun _ => ?_) fun _ => saves v kept
      exact trails_reads (reads_check rfl kept) fun _ v _ kept => saves v kept

theorem remove_trails :
    (AuditedOp.removeVariant productId variantId).Trails platform bcrypt tenantId tenant w
      (remove (some data) tenantId productId variantId) := by
  refine trails_reads (reads_findOne tenantId productId variantId w) fun variant v held kept => ?_
  refine trails_softRemoving kept fun _ v' removed => ?_
  exact trails_recorded named some_text kept (AuditedOp.Writes.removeVariant held removed)
    rfl (softRemove_journal removed)

end VariantService

namespace WarehouseService

variable {id : String}

theorem insert_journal {dto : CreateWarehouseDto} {saved : Warehouse}
    (h : insert tenantId dto v = .ok (saved, v')) : v'.journal = v.journal := by
  obtain ⟨owner, -, inserted⟩ := bind_eq_ok.mp h
  exact World.insert_journal inserted

theorem saveLoaded_journal {entity saved : Warehouse} {loaded : Database}
    (h : saveLoaded entity loaded v = .ok (saved, v')) : v'.journal = v.journal := by
  unfold saveLoaded at h
  split at h
  · obtain ⟨db, -, last⟩ := bind_eq_ok.mp h
    cases last
    rfl
  · obtain ⟨u, updated, last⟩ := bind_eq_ok.mp h
    cases last
    exact World.update_journal updated

theorem softRemove_journal {entity : Warehouse} (h : softRemove entity v = .ok ((), v')) :
    v'.journal = v.journal := by
  obtain ⟨u, updated, last⟩ := bind_eq_ok.mp h
  cases last
  exact World.update_journal updated

theorem reads_findOne (tenantId id : String) (w : World) :
    Reads w w (findOne tenantId id) fun warehouse => ∃ tenant i,
      uuidParam tenantId = .ok tenant ∧
      uuidParam id = .ok i ∧ readById w.db tenant i = some warehouse := by
  refine reads_found rfl rfl (fun _ => rfl) (Kept.refl w) fun warehouse read => ?_
  obtain ⟨tenant, owner, read⟩ := bind_eq_ok.mp read
  obtain ⟨i, named, last⟩ := bind_eq_ok.mp read
  exact ⟨tenant, i, owner, named, Except.ok.inj last⟩

variable (named : data.tenantId = some tenant) (some_text : tenant ≠ "")

include named some_text

theorem create_trails (dto : CreateWarehouseDto) :
    (AuditedOp.createWarehouse dto).Trails platform bcrypt tenantId tenant w
      (create (some data) tenantId dto) := by
  refine trails_reads (reads_check rfl (Kept.refl w)) fun _ v _ kept => ?_
  refine trails_translated (trails_statement rfl kept fun saved v' inserted => ?_)
  exact trails_record named some_text kept (AuditedOp.Writes.createWarehouse inserted)
    rfl (insert_journal inserted) fun _ => quiet_pure saved

theorem update_trails (dto : UpdateWarehouseDto) :
    (AuditedOp.updateWarehouse id dto).Trails platform bcrypt tenantId tenant w
      (update (some data) tenantId id dto) := by
  refine trails_reads (reads_findOne tenantId id w) fun warehouse v held kept => ?_
  obtain ⟨owner, i, owned, name, held⟩ := held
  have saves : ∀ v, Kept w v → After (translated nameTaken do
      let edited := patched dto warehouse
      let saved ← saving (.warehouse edited) (saveLoaded edited)
      AuditService.record (some data) (updateAudit warehouse saved)
      pure saved) (Trail ((AuditedOp.updateWarehouse id dto).Writes platform bcrypt tenantId w)
        tenant w) v [] := by
    refine fun v kept => trails_translated (trails_saving kept fun saved v' written => ?_)
    exact trails_record named some_text kept
      (AuditedOp.Writes.updateWarehouse owned name held written) rfl (saveLoaded_journal written)
      fun _ => quiet_pure saved
  cases dto.name.truthy with
  | none => exact saves v kept
  | some other =>
      exact trails_reads (reads_check rfl kept) fun _ v _ kept => saves v kept

theorem remove_trails :
    (AuditedOp.removeWarehouse id).Trails platform bcrypt tenantId tenant w
      (remove (some data) tenantId id) := by
  refine trails_reads (reads_findOne tenantId id w) fun warehouse v held kept => ?_
  obtain ⟨owner, i, owned, name, held⟩ := held
  refine trails_softRemoving kept fun _ v' removed => ?_
  exact trails_recorded named some_text kept
    (AuditedOp.Writes.removeWarehouse owned name held removed) rfl (softRemove_journal removed)

end WarehouseService

namespace SupplierService

variable {id : String}

theorem insert_journal {dto : CreateSupplierDto} {saved : Supplier}
    (h : insert tenantId dto v = .ok (saved, v')) : v'.journal = v.journal := by
  obtain ⟨owner, -, inserted⟩ := bind_eq_ok.mp h
  exact World.insert_journal inserted

theorem saveLoaded_journal {entity saved : Supplier} {loaded : Database}
    (h : saveLoaded entity loaded v = .ok (saved, v')) : v'.journal = v.journal := by
  unfold saveLoaded at h
  split at h
  · obtain ⟨db, -, last⟩ := bind_eq_ok.mp h
    cases last
    rfl
  · obtain ⟨u, updated, last⟩ := bind_eq_ok.mp h
    cases last
    exact World.update_journal updated

theorem softRemove_journal {entity : Supplier} (h : softRemove entity v = .ok ((), v')) :
    v'.journal = v.journal := by
  obtain ⟨u, updated, last⟩ := bind_eq_ok.mp h
  cases last
  exact World.update_journal updated

theorem reads_findOne (tenantId id : String) (w : World) :
    Reads w w (findOne tenantId id) fun supplier => readOne tenantId id w = .ok (some supplier) :=
  reads_found rfl rfl (fun _ => rfl) (Kept.refl w) fun _ read => read

variable (named : data.tenantId = some tenant) (some_text : tenant ≠ "")

include named some_text

theorem create_trails (dto : CreateSupplierDto) :
    (AuditedOp.createSupplier dto).Trails platform bcrypt tenantId tenant w
      (create (some data) tenantId dto) := by
  refine trails_reads (reads_check rfl (Kept.refl w)) fun _ v _ kept => ?_
  refine trails_translated (trails_statement rfl kept fun saved v' inserted => ?_)
  exact trails_record named some_text kept (AuditedOp.Writes.createSupplier inserted)
    rfl (insert_journal inserted) fun _ => quiet_pure saved

theorem update_trails (dto : UpdateSupplierDto) :
    (AuditedOp.updateSupplier id dto).Trails platform bcrypt tenantId tenant w
      (update (some data) tenantId id dto) := by
  refine trails_reads (reads_findOne tenantId id w) fun supplier v held kept => ?_
  have saves : ∀ v, Kept w v → After (translated nameTaken do
      let edited := patched dto supplier
      let saved ← saving (.supplier edited) (saveLoaded edited)
      AuditService.record (some data) (updateAudit supplier saved)
      pure saved) (Trail ((AuditedOp.updateSupplier id dto).Writes platform bcrypt tenantId w)
        tenant w) v [] := by
    refine fun v kept => trails_translated (trails_saving kept fun saved v' written => ?_)
    exact trails_record named some_text kept (AuditedOp.Writes.updateSupplier held written)
      rfl (saveLoaded_journal written) fun _ => quiet_pure saved
  cases dto.companyName.truthy with
  | none => exact saves v kept
  | some other =>
      exact trails_reads (reads_check rfl kept)
        fun _ v _ kept => saves v kept

theorem remove_trails :
    (AuditedOp.removeSupplier id).Trails platform bcrypt tenantId tenant w
      (remove (some data) tenantId id) := by
  refine trails_reads (reads_findOne tenantId id w) fun supplier v held kept => ?_
  refine trails_softRemoving kept fun _ v' removed => ?_
  exact trails_recorded named some_text kept (AuditedOp.Writes.removeSupplier held removed)
    rfl (softRemove_journal removed)

end SupplierService

namespace TenantUserManagementService

theorem insert_journal {user : NewUser} {saved : User} (h : insert user v = .ok (saved, v')) :
    v'.journal = v.journal := by
  obtain ⟨owner, -, inserted⟩ := bind_eq_ok.mp h
  exact World.insert_journal inserted

theorem saveLoaded_journal {entity saved : User} {loaded : Database}
    (h : saveLoaded entity loaded v = .ok (saved, v')) : v'.journal = v.journal := by
  unfold saveLoaded at h
  split at h
  · obtain ⟨db, -, last⟩ := bind_eq_ok.mp h
    cases last
    rfl
  · obtain ⟨u, updated, last⟩ := bind_eq_ok.mp h
    cases last
    exact World.update_journal updated

variable (named : data.tenantId = some tenant) (some_text : tenant ≠ "")

include named some_text

theorem inviteUser_trails (dto : InviteUserDto) :
    (AuditedOp.inviteUser dto).Trails platform bcrypt tenantId tenant w
      (inviteUser bcrypt (some data) tenantId dto) := by
  refine trails_reads (P := fun _ => True) (reads_query (Kept.refl w) fun _ _ => trivial)
    fun existing v _ kept => ?_
  refine trails_ite (fun _ => trails_throw kept) fun _ => ?_
  refine trails_ite (fun _ => trails_throw kept) fun _ => trails_tryCatch ?_ fun e => ?_
  · refine trails_statement rfl kept fun saved v' inserted => ?_
    exact trails_record named some_text kept (AuditedOp.Writes.inviteUser inserted)
      rfl (insert_journal inserted) fun _ => quiet_pure saved
  · split
    · exact ⟨_, rfl⟩
    · exact ⟨_, rfl⟩

theorem updateUserRole_trails (userId : String) (dto : UpdateUserRoleDto) :
    (AuditedOp.updateUserRole userId dto).Trails platform bcrypt tenantId tenant w
      (updateUserRole (some data) tenantId userId dto) := by
  refine trails_reads (reads_query (Kept.refl w) fun _ read => read) fun found v read kept => ?_
  cases found with
  | none => exact trails_throw kept
  | some user =>
      refine trails_ite (fun _ => trails_throw kept) fun _ => ?_
      refine trails_tryCatch (trails_saving kept fun saved v' written => ?_) fun _ => ⟨_, rfl⟩
      exact trails_record named some_text kept (AuditedOp.Writes.updateUserRole read written)
        rfl (saveLoaded_journal written) fun _ => quiet_bind (quiet_del _) fun _ => quiet_pure saved

end TenantUserManagementService

namespace TenantSettingService

theorem saveLoaded_journal {entity saved : TenantSetting} {loaded : Database}
    (h : saveLoaded entity loaded v = .ok (saved, v')) : v'.journal = v.journal := by
  unfold saveLoaded at h
  split at h
  · obtain ⟨db, -, last⟩ := bind_eq_ok.mp h
    cases last
    rfl
  · obtain ⟨u, updated, last⟩ := bind_eq_ok.mp h
    cases last
    exact World.update_journal updated

theorem updateSettings_trails (named : data.tenantId = some tenant) (some_text : tenant ≠ "")
    (dto : UpdateSettingsDto) :
    (AuditedOp.updateSettings dto).Trails platform bcrypt tenantId tenant w
      (updateSettings (some data) tenantId dto) := by
  have reads : Reads w w (getSettings tenantId) fun settings =>
      readByTenant tenantId w = .ok (some settings) :=
    reads_found rfl rfl (fun _ => rfl) (Kept.refl w) fun _ read => read
  refine trails_reads reads fun settings v read kept => ?_
  refine trails_saving kept fun saved v' written => ?_
  exact trails_record named some_text kept (AuditedOp.Writes.updateSettings read written)
    rfl (saveLoaded_journal written) fun _ => quiet_pure saved

end TenantSettingService

/-- What an operation answers does not matter to its trail. -/
theorem trails_discard {writes : World → World → AuditEntry → Prop} {α : Type} {p : Svc α}
    (h : After p (Trail writes tenant w) w []) :
    After (discard p) (Trail writes tenant w) w [] := by
  refine after_bind (h.mono fun answer w' marks trail => ?_)
  cases answer with
  | ok a => exact trail
  | error e => exact trail

theorem AuditedOp.program_trails (named : data.tenantId = some tenant) (some_text : tenant ≠ "")
    (op : AuditedOp) : op.Trails platform bcrypt tenantId tenant w
      (op.program platform bcrypt (some data) tenantId) := by
  cases op with
  | createCategory dto =>
      exact trails_discard (CategoryService.create_trails named some_text dto)
  | updateCategory id dto =>
      exact trails_discard (CategoryService.update_trails named some_text dto)
  | removeCategory id => exact CategoryService.remove_trails named some_text
  | createProduct dto => exact trails_discard (ProductService.create_trails named some_text dto)
  | updateProduct id dto => exact trails_discard (ProductService.update_trails named some_text dto)
  | removeProduct id => exact ProductService.remove_trails named some_text
  | createVariant productId dto =>
      exact trails_discard (VariantService.create_trails named some_text dto)
  | updateVariant productId variantId dto =>
      exact trails_discard (VariantService.update_trails named some_text dto)
  | removeVariant productId variantId => exact VariantService.remove_trails named some_text
  | createWarehouse dto =>
      exact trails_discard (WarehouseService.create_trails named some_text dto)
  | updateWarehouse id dto =>
      exact trails_discard (WarehouseService.update_trails named some_text dto)
  | removeWarehouse id => exact WarehouseService.remove_trails named some_text
  | createSupplier dto => exact trails_discard (SupplierService.create_trails named some_text dto)
  | updateSupplier id dto =>
      exact trails_discard (SupplierService.update_trails named some_text dto)
  | removeSupplier id => exact SupplierService.remove_trails named some_text
  | inviteUser dto =>
      exact trails_discard (TenantUserManagementService.inviteUser_trails named some_text dto)
  | updateUserRole userId dto =>
      exact trails_discard
        (TenantUserManagementService.updateUserRole_trails named some_text userId dto)
  | updateSettings dto =>
      exact trails_discard (TenantSettingService.updateSettings_trails named some_text dto)

end Operations

/-- However the calls of an operation fail: it answers exactly when its statement has
written and one event was emitted after it, with the entry of that statement, and it
throws exactly when nothing was written and nothing emitted. -/
theorem audit_trail_iff_success (platform : Platform) (bcrypt : Bcrypt) (op : AuditedOp)
    (data : AuditContextData) (tenant tenantId : String) (w w' : World)
    (answer : Except Err Unit) (marks : List Mark) (named : data.tenantId = some tenant)
    (some_text : tenant ≠ "")
    (leaves : Leaves (op.program platform bcrypt (some data) tenantId) w answer w' marks) :
    (answer.isOk = true ↔ Trailed (op.Writes platform bcrypt tenantId w) tenant w w' marks) ∧
      (answer.isOk = false ↔ Trackless w w' marks) := by
  have trail := (AuditedOp.program_trails named some_text op).leaves leaves
  cases answer with
  | ok a =>
      exact ⟨⟨fun _ => trail, fun _ => rfl⟩, fun other => (nomatch other),
        fun trackless => absurd trail trackless.not_trailed⟩
  | error e =>
      exact ⟨⟨fun other => (nomatch other), fun trailed => absurd trailed trail.not_trailed⟩,
        fun _ => trail, fun _ => rfl⟩

namespace SampleShop

/-- A warehouse is created while every call succeeds. -/
def openDepot : Except Err Unit × World × List Mark :=
  (((AuditedOp.createWarehouse ⟨"Depot", .undefined⟩).program plainText hashing (some context)
    (uuidOut tenantId)).run.recorded Label.mark).run (world unstocked, [])

end SampleShop

theorem audit_trail_iff_success_depot :
    SampleShop.openDepot.1.isOk = true ∧
      Trailed ((AuditedOp.createWarehouse ⟨"Depot", .undefined⟩).Writes SampleShop.plainText
        SampleShop.hashing (uuidOut SampleShop.tenantId) (SampleShop.world SampleShop.unstocked))
        (uuidOut SampleShop.tenantId) (SampleShop.world SampleShop.unstocked)
        SampleShop.openDepot.2.1 SampleShop.openDepot.2.2 := by
  have answers : SampleShop.openDepot.1.isOk = true := by decide
  refine ⟨answers, (audit_trail_iff_success SampleShop.plainText SampleShop.hashing
    (.createWarehouse ⟨"Depot", .undefined⟩) SampleShop.context (uuidOut SampleShop.tenantId)
    (uuidOut SampleShop.tenantId) (SampleShop.world SampleShop.unstocked) _ _ _ rfl (by decide)
    ?_).1.mp answers⟩
  exact Prog.exec_run _ _

end Tenantory
