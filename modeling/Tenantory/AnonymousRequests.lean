import Tenantory.ApiRoutes
import Tenantory.MediaAgreement
import Tenantory.SampleShop

/-! Requests without a valid access token, and the rows that they may write. -/

namespace Tenantory

open Svc UuidText

/-- `find` of all rows, the newest first. -/
def TenantService.findAll (platform : Platform) : Svc (List Tenant) :=
  listing fun ties w => .ok (platform.orderBy ties .desc (fun t => .number t.createdAt)
    (w.db.tenants.select Tenant.live))

/-! ## Requests -/

/-- A call of a handler without the token guard. -/
inductive OpenCall
  | findCategories (query : CategoryQueryDto)
  | findTree
  | findTenants
  | findTenant (id : String)
  | createTenant (dto : CreateTenantDto)
  | updateTenant (id : String) (dto : UpdateTenantDto)
  | removeTenant (id : String)
  | findSuppliers (query : SupplierQueryDto)
  | findSupplier (id : String)
  | createSupplier (dto : CreateSupplierDto)
  | updateSupplier (id : String) (dto : UpdateSupplierDto)
  | removeSupplier (id : String)
  | findStock (query : StockQueryDto)
  | stock (op : StockOp) (dto : StockDto)
  | getAsset (key : String)
  | upload (file : MediaService.UploadedFile) (fails : MediaService.FailurePoint → Option Err)
  | generatePresignedUrl (fileName contentType : String)
      (fails : MediaService.FailurePoint → Option Err)
  | metrics
  | getHello

namespace OpenCall

def route : OpenCall → ApiRoute
  | findCategories _ => .category .findAll
  | findTree => .findTree
  | findTenants => .tenants .findAll
  | findTenant _ => .tenants .findOne
  | createTenant _ => .tenants .create
  | updateTenant _ _ => .tenants .update
  | removeTenant _ => .tenants .remove
  | findSuppliers _ => .suppliers .findAll
  | findSupplier _ => .suppliers .findOne
  | createSupplier _ => .suppliers .create
  | updateSupplier _ _ => .suppliers .update
  | removeSupplier _ => .suppliers .remove
  | findStock _ => .inventory
  | stock op _ => .stock op
  | getAsset _ => .getAsset
  | upload _ _ => .upload
  | generatePresignedUrl _ _ _ => .generatePresignedUrl
  | metrics => .metrics
  | getHello => .getHello

end OpenCall

/-- The state after a service has run. -/
def MediaStore.serve {α : Type} (s : MediaStore) (p : Svc α) : MediaStore :=
  { s with world := (p.runs s.world).2 }

def OpenCall.act (platform : Platform) (context : Option AuditContextData) (tenantId : String)
    (s : MediaStore) : OpenCall → MediaStore
  | findCategories query => s.serve (CategoryService.findAll platform tenantId query)
  | findTree => s.serve (CategoryService.findTree platform tenantId)
  | findTenants => s.serve (TenantService.findAll platform)
  | findTenant id => s.serve (TenantService.findOne id)
  | createTenant dto => s.serve (TenantService.create dto)
  | updateTenant id dto => s.serve (TenantService.update id dto)
  | removeTenant id => s.serve (TenantService.remove id)
  | findSuppliers query => s.serve (SupplierService.findAll platform tenantId query)
  | findSupplier id => s.serve (SupplierService.findOne tenantId id)
  | createSupplier dto => s.serve (SupplierService.create context tenantId dto)
  | updateSupplier id dto => s.serve (SupplierService.update context tenantId id dto)
  | removeSupplier id => s.serve (SupplierService.remove context tenantId id)
  | findStock query => s.serve (InventoryService.findAll platform tenantId query)
  | stock op dto => s.serve (StockCall.program ⟨op, tenantId, dto⟩ context)
  | getAsset key => s.serve (MediaService.getSignedURL tenantId key)
  | upload file fails => MediaOp.act s (.uploadFile tenantId file fails)
  | generatePresignedUrl fileName contentType fails =>
      MediaOp.act s (.generatePresignedURL tenantId fileName contentType fails)
  | metrics | getHello => s

/-- A call of a handler. What those behind the token guard do is left open. -/
inductive ApiCall
  | opened (call : OpenCall)
  | closed (route : ApiRoute) (guard : route.Protected)
      (handler : Caller → MediaStore → MediaStore)

def ApiCall.route : ApiCall → ApiRoute
  | opened call => call.route
  | closed route _ _ => route

structure ApiRequest where
  now : Timestamp
  headers : RequestHeaders
  call : ApiCall

namespace ApiRequest

/-- No access token that the library verifies is sent. -/
def Anonymous (libraries : RequestLibraries) (request : ApiRequest) : Prop :=
  ∀ token, request.headers.bearer = some token → ∀ payload,
    libraries.jwt.verifyAsync .access token request.now ≠ .ok payload

def handle (platform : Platform) (request : ApiRequest) (caller : Caller) (s : MediaStore) :
    MediaStore :=
  match request.call with
  | .opened call => call.act platform (caller.auditContext request.headers) caller.tenantId s
  | .closed _ _ handler => handler caller s

/-- The state that a request leaves, whether it comes to its handler or not. -/
def act (libraries : RequestLibraries) (platform : Platform) (request : ApiRequest)
    (s : MediaStore) : MediaStore :=
  let s := s.arrive request.now
  match (request.call.route.admission libraries request.now request.headers).runs s.world with
  | (.ok caller, w) => request.handle platform caller { s with world := w }
  | (.error _, w) => { s with world := w }

end ApiRequest

/-- The tables of the shops and their users, without the notifications. -/
structure SameTables (db db' : Database) : Prop where
  tenants : db'.tenants = db.tenants
  users : db'.users = db.users
  tenantSettings : db'.tenantSettings = db.tenantSettings
  categories : db'.categories = db.categories
  products : db'.products = db.products
  variants : db'.variants = db.variants
  warehouses : db'.warehouses = db.warehouses
  suppliers : db'.suppliers = db.suppliers
  stockLevels : db'.stockLevels = db.stockLevels
  mediaAssets : db'.mediaAssets = db.mediaAssets

theorem SameTables.of_eq {db db' : Database} (same : db' = db) : SameTables db db' := by
  subst same
  exact ⟨rfl, rfl, rfl, rfl, rfl, rfl, rfl, rfl, rfl, rfl⟩

theorem SameTables.trans {a b c : Database} (h : SameTables a b) (h' : SameTables b c) :
    SameTables a c :=
  ⟨h'.tenants.trans h.tenants, h'.users.trans h.users, h'.tenantSettings.trans h.tenantSettings,
    h'.categories.trans h.categories, h'.products.trans h.products, h'.variants.trans h.variants,
    h'.warehouses.trans h.warehouses, h'.suppliers.trans h.suppliers,
    h'.stockLevels.trans h.stockLevels, h'.mediaAssets.trans h.mediaAssets⟩

namespace ApiRoute

/-- The routes without the token guard whose handlers write. -/
def openWrites : List ApiRoute :=
  [.tenants .create, .tenants .update, .tenants .remove, .suppliers .create, .suppliers .update,
    .suppliers .remove, .stock .deduct, .stock .reserve, .stock .release, .stock .replenish,
    .upload]

end ApiRoute

/-! ## Handlers that read -/

namespace OpenCall

variable {platform : Platform} {context : Option AuditContextData} {tenantId : String}

theorem serve_db {α : Type} {p : Svc α} (reads : ReadsOnly p) (s : MediaStore) :
    (s.serve p).world.db = s.world.db := reads s.world

theorem act_readsOnly (call : OpenCall) (s : MediaStore)
    (reading : call.route ∉ ApiRoute.openWrites) :
    (call.act platform context tenantId s).world.db = s.world.db := by
  cases call with
  | findCategories query =>
      refine serve_db (fun w => ?_) s
      rw [CategoryService.runs_findAll]
      exact CacheAside.answer_db w
  | findTree =>
      refine serve_db (fun w => ?_) s
      rw [CategoryService.runs_findTree]
      exact CacheAside.answer_db w
  | findTenants => exact serve_db (readsOnly_listing _) s
  | findTenant id =>
      refine serve_db ((readsOnly_query _).bind fun found => ?_) s
      cases found with
      | none => exact readsOnly_throw _
      | some tenant => exact readsOnly_pure _
  | findSuppliers query => exact serve_db ((readsOnly_listing _).bind fun _ => readsOnly_pure _) s
  | findSupplier id =>
      refine serve_db ((readsOnly_query _).bind fun found => ?_) s
      cases found with
      | none => exact readsOnly_throw _
      | some supplier => exact readsOnly_pure _
  | findStock query => exact serve_db ((readsOnly_listing _).bind fun _ => readsOnly_pure _) s
  | getAsset key =>
      refine serve_db ((readsOnly_query _).bind fun found => ?_) s
      cases found with
      | none => exact readsOnly_throw _
      | some asset => exact readsOnly_pure _
  | generatePresignedUrl fileName contentType fails =>
      rcases MediaService.generatePresignedURL_cases tenantId fileName contentType fails s with
        left | ⟨urls, left⟩
      · exact congrArg (fun s => s.world.db) left
      · exact congrArg (fun s => s.world.db) left
  | metrics | getHello => rfl
  | createTenant _ | updateTenant _ _ | removeTenant _ | createSupplier _ | updateSupplier _ _
  | removeSupplier _ | upload _ _ => exact absurd reading (by simp [route, ApiRoute.openWrites])
  | stock op dto => cases op <;> exact absurd reading (by simp [route, ApiRoute.openWrites])

end OpenCall

/-! ## Admission -/

section Admission

variable {libraries : RequestLibraries} {platform : Platform} {request : ApiRequest}

theorem ApiRequest.Anonymous.refused (anonymous : request.Anonymous libraries)
    (closed : request.call.route.Protected) {w w' : World} {caller : Caller} :
    (request.call.route.admission libraries request.now request.headers).runs w ≠
      (.ok caller, w') := by
  intro admitted
  obtain ⟨token, payload, sent, verified, -⟩ := closed.admits admitted
  exact anonymous token sent payload verified

theorem ApiRequest.act_same (anonymous : request.Anonymous libraries)
    (reading : request.call.route ∉ ApiRoute.openWrites) (s : MediaStore) :
    SameTables s.world.db (request.act libraries platform s).world.db := by
  have checked : ((request.call.route.admission libraries request.now request.headers).runs
      (s.arrive request.now).world).2.db = s.world.db := ApiRoute.admission_readsOnly _ _
  unfold act
  dsimp only
  generalize ran : (request.call.route.admission libraries request.now request.headers).runs
    (s.arrive request.now).world = out at checked
  obtain ⟨answer, w⟩ := out
  refine .of_eq ?_
  cases answer with
  | error e => exact checked
  | ok caller =>
      cases called : request.call with
      | opened call =>
          rw [called] at reading
          dsimp only [handle]
          rw [called]
          exact (call.act_readsOnly _ reading).trans checked
      | closed route guard handler =>
          have guard : request.call.route.Protected := by
            rw [called]
            exact guard
          exact absurd ran (anonymous.refused guard)

end Admission

/-! ## Handlers that write -/

namespace SampleShop

def supplier : Supplier := ⟨0x50, tenantId, "Weavers", none, none, none, some 7, 0, 0, none⟩

/-- The headers of a client that is not signed in. -/
def passing : RequestHeaders := ⟨some (uuidOut tenantId), none, none, none, none⟩

def files : MediaStore :=
  ⟨world { stocked 25 5 with suppliers := one supplier }, [],
    fun n => BitVec.ofNat 128 n, [], []⟩

def stockDto : StockDto := ⟨uuidOut warehouseId, uuidOut variantId, 1⟩

/-- A call that writes, for each route that is open to it. -/
def intrusion : ApiRoute → OpenCall
  | .tenants .create => .createTenant ⟨"other", "Other", .active⟩
  | .tenants .update =>
      .updateTenant (uuidOut tenantId) ⟨.undefined, .value "Other", .undefined⟩
  | .tenants .remove => .removeTenant (uuidOut tenantId)
  | .suppliers .create =>
      .createSupplier ⟨"Dyers", .undefined, .undefined, .undefined, .undefined⟩
  | .suppliers .update => .updateSupplier (uuidOut supplier.id)
      ⟨.undefined, .undefined, .undefined, .undefined, .value 1⟩
  | .suppliers .remove => .removeSupplier (uuidOut supplier.id)
  | .stock op => .stock op stockDto
  | .upload => .upload ⟨"shirt.png", "image/png", 0, []⟩ fun _ => none
  | _ => .getHello

def intruding (route : ApiRoute) : ApiRequest := ⟨1, passing, .opened (intrusion route)⟩

def intruded (route : ApiRoute) : Database :=
  ((intruding route).act adminLibraries .ascii files).world.db

theorem intrusion_route {route : ApiRoute} (writes : route ∈ ApiRoute.openWrites) :
    (intrusion route).route = route := by
  simp only [ApiRoute.openWrites, List.mem_cons, List.not_mem_nil, or_false] at writes
  rcases writes with rfl | rfl | rfl | rfl | rfl | rfl | rfl | rfl | rfl | rfl | rfl <;> rfl

theorem intruding_anonymous (route : ApiRoute) : (intruding route).Anonymous adminLibraries :=
  fun _ sent => by cases sent

theorem upload_recorded : (intruded .upload).mediaAssets.rows.length = 1 := by rfl

/-- Each of these calls leaves another count of rows, or another value in a row. -/
theorem intruded_differs {route : ApiRoute} (writes : route ∈ ApiRoute.openWrites) :
    ¬ SameTables files.world.db (intruded route) := by
  intro same
  simp only [ApiRoute.openWrites, List.mem_cons, List.not_mem_nil, or_false] at writes
  rcases writes with rfl | rfl | rfl | rfl | rfl | rfl | rfl | rfl | rfl | rfl | rfl
  · have count : (intruded (.tenants .create)).tenants.rows.length = 2 := rfl
    rw [same.tenants] at count
    cases count
  · have names : (intruded (.tenants .update)).tenants.rows.map Tenant.businessName =
        ["Other"] := rfl
    rw [same.tenants] at names
    exact absurd names (by decide)
  · have live : (intruded (.tenants .remove)).tenants.rows.map Tenant.live = [false] := rfl
    rw [same.tenants] at live
    cases live
  · have count : (intruded (.suppliers .create)).suppliers.rows.length = 2 := rfl
    rw [same.suppliers] at count
    cases count
  · have days : (intruded (.suppliers .update)).suppliers.rows.map Supplier.leadTimeDays =
        [some 1] := rfl
    rw [same.suppliers] at days
    cases days
  · have live : (intruded (.suppliers .remove)).suppliers.rows.map Supplier.live = [false] := rfl
    rw [same.suppliers] at live
    cases live
  · have left : (intruded (.stock .deduct)).stockLevels.rows.map StockLevel.availableQuantity =
        [24] := rfl
    rw [same.stockLevels] at left
    cases left
  · have left : (intruded (.stock .reserve)).stockLevels.rows.map StockLevel.availableQuantity =
        [24] := rfl
    rw [same.stockLevels] at left
    cases left
  · have left : (intruded (.stock .release)).stockLevels.rows.map StockLevel.availableQuantity =
        [26] := rfl
    rw [same.stockLevels] at left
    cases left
  · have left : (intruded (.stock .replenish)).stockLevels.rows.map
        StockLevel.availableQuantity = [26] := rfl
    rw [same.stockLevels] at left
    cases left
  · have count := upload_recorded
    rw [same.mediaAssets] at count
    cases count

end SampleShop

open SampleShop

/-- The state after requests that are handled one after the other. -/
def ApiRequest.run (libraries : RequestLibraries) (platform : Platform)
    (requests : List ApiRequest) (s : MediaStore) : MediaStore :=
  requests.foldl (fun s request => request.act libraries platform s) s

theorem ApiRequest.run_same {libraries : RequestLibraries} {platform : Platform}
    (requests : List ApiRequest) (each : ∀ request ∈ requests, request.Anonymous libraries ∧
      request.call.route ∉ ApiRoute.openWrites) (s : MediaStore) :
    SameTables s.world.db (run libraries platform requests s).world.db := by
  induction requests generalizing s with
  | nil => exact .of_eq rfl
  | cons request requests ih =>
      obtain ⟨anonymous, reading⟩ := each request List.mem_cons_self
      have first : SameTables s.world.db (request.act libraries platform s).world.db :=
        act_same anonymous reading s
      exact first.trans (ih (fun r mem => each r (List.mem_cons_of_mem _ mem)) _)

/-- Nobody writes to the tables without a token, apart from signing in, by the routes that have
the token guard or do not write; the eleven others are open. -/
theorem anonymous_changes_nothing (route : ApiRoute) :
    ((∀ (libraries : RequestLibraries) (platform : Platform) (request : ApiRequest),
      request.call.route = route → request.Anonymous libraries → ∀ s : MediaStore,
        SameTables s.world.db (request.act libraries platform s).world.db) ↔
      route ∉ ApiRoute.openWrites) ∧
    ∀ (libraries : RequestLibraries) (platform : Platform) (requests : List ApiRequest),
      (∀ request ∈ requests, request.Anonymous libraries ∧
        request.call.route ∉ ApiRoute.openWrites) → ∀ s : MediaStore,
          SameTables s.world.db (ApiRequest.run libraries platform requests s).world.db := by
  refine ⟨⟨fun same writes => ?_, fun reading libraries platform request there
    anonymous s => ?_⟩, fun _ _ requests each s => ApiRequest.run_same requests each s⟩
  · exact intruded_differs writes (same adminLibraries .ascii (intruding route)
      (intrusion_route writes) (intruding_anonymous route) files)
  · exact ApiRequest.act_same anonymous (there ▸ reading) s

/-- A client that is not signed in creates a supplier. -/
theorem supplier_created_anonymously : ¬ ∀ (libraries : RequestLibraries) (platform : Platform)
    (request : ApiRequest), request.Anonymous libraries → ∀ s : MediaStore,
      SameTables s.world.db (request.act libraries platform s).world.db :=
  fun same => intruded_differs (by decide : .suppliers .create ∈ ApiRoute.openWrites)
    (same _ _ _ (intruding_anonymous _) files)

end Tenantory
