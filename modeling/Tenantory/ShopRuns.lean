import Tenantory.OwnRow
import Tenantory.StoredChecks

/-! Runs of the services over the catalog, the tenants and their users. The rows pass
their checks in every state of such a run, and a cached category is under its own id
and names a parent that is stored. -/

namespace Tenantory

open Stored UuidText Svc

/-! ## Calls -/

inductive TenantOp
  | create (dto : CreateTenantDto)
  | update (id : String) (dto : UpdateTenantDto)
  | remove (id : String)
  | findOne (id : String)

/-- The state that a call of the tenant service leaves, whether it answers or throws. -/
def TenantOp.act (request : Request TenantOp) (w : World) : World :=
  match request.op with
  | .create dto => ((TenantService.create dto).runs w).2
  | .update id dto => ((TenantService.update id dto).runs w).2
  | .remove id => ((TenantService.remove id).runs w).2
  | .findOne id => ((TenantService.findOne id).runs w).2

inductive UserOp
  | invite (dto : InviteUserDto)
  | updateRole (userId : String) (dto : UpdateUserRoleDto)

/-- The state that a call of the user management leaves, whether it answers or throws. -/
def UserOp.act (bcrypt : Bcrypt) (request : Request UserOp) (w : World) : World :=
  let tenantId := request.tenantId
  match request.op with
  | .invite dto =>
      ((TenantUserManagementService.inviteUser bcrypt request.context tenantId dto).runs w).2
  | .updateRole userId dto =>
      ((TenantUserManagementService.updateUserRole request.context tenantId userId dto).runs w).2

inductive ShopOp
  | catalog (op : CatalogOp)
  | tenant (op : TenantOp)
  | user (op : UserOp)

def ShopOp.act (platform : Platform) (bcrypt : Bcrypt) (request : Request ShopOp) :
    World → World :=
  match request.op with
  | .catalog op => CatalogOp.act platform { request with op }
  | .tenant op => TenantOp.act { request with op }
  | .user op => UserOp.act bcrypt { request with op }

/-! ## The tables -/

section Tables

variable {db₀ : Database} {w : World} {platform : Platform} {bcrypt : Bcrypt}

theorem CategoryOp.act_tracks (request : Request CategoryOp) (tracks : Tracks db₀ w.db) :
    Tracks db₀ (CategoryOp.act platform request w).db := by
  obtain ⟨context, tenantId, now, op⟩ := request
  cases op with
  | create dto => exact (CategoryService.create_tracks platform dto).runs tracks
  | update id dto => exact (CategoryService.update_tracks platform dto).runs tracks
  | remove id => exact CategoryService.remove_tracks.runs tracks
  | findOne id => exact (CategoryService.keeps_findOne keeps_set tenantId id).runs tracks
  | findAll query => exact (CategoryService.findAll_tracks platform query).runs tracks
  | findTree => exact (CategoryService.findTree_tracks platform).runs tracks

theorem ProductOp.act_tracks (request : Request ProductOp) (tracks : Tracks db₀ w.db) :
    Tracks db₀ (ProductOp.act platform request w).db := by
  obtain ⟨context, tenantId, now, op⟩ := request
  cases op with
  | create dto => exact (ProductService.create_tracks dto).runs tracks
  | update id dto => exact (ProductService.update_tracks dto).runs tracks
  | remove id => exact ProductService.remove_tracks.runs tracks
  | findOne id => exact (ProductService.keeps_findOne keeps_set tenantId id).runs tracks
  | findAll query => exact (ProductService.findAll_tracks platform query).runs tracks

theorem VariantOp.act_tracks (request : Request VariantOp) (tracks : Tracks db₀ w.db) :
    Tracks db₀ (VariantOp.act platform request w).db := by
  obtain ⟨context, tenantId, now, op⟩ := request
  cases op with
  | create productId dto => exact (VariantService.create_tracks dto).runs tracks
  | update productId variantId dto => exact (VariantService.update_tracks variantId dto).runs tracks
  | remove productId variantId => exact (VariantService.remove_tracks variantId).runs tracks
  | findOne productId variantId =>
      have keeps : KeepsChecks db₀ (VariantService.findOne tenantId productId variantId) :=
        VariantService.keeps_findOne _ _ _
      exact keeps.runs tracks
  | findOneById variantId =>
      simp only [VariantOp.act, VariantService.findOneById_world]
      exact tracks
  | findAll productId query =>
      simp only [VariantOp.act]
      rcases VariantService.findAll_world platform tenantId productId query w with same | same
      · rw [same]
        exact tracks
      · rw [same]
        exact tracks

theorem TenantOp.act_tracks (request : Request TenantOp) (tracks : Tracks db₀ w.db) :
    Tracks db₀ (TenantOp.act request w).db := by
  obtain ⟨context, tenantId, now, op⟩ := request
  cases op with
  | create dto => exact (TenantService.create_tracks dto).runs tracks
  | update id dto => exact (TenantService.update_tracks dto).runs tracks
  | remove id => exact TenantService.remove_tracks.runs tracks
  | findOne id =>
      have keeps : KeepsChecks db₀ (TenantService.findOne id) := TenantService.keeps_findOne _
      exact keeps.runs tracks

theorem UserOp.act_tracks (request : Request UserOp) (tracks : Tracks db₀ w.db) :
    Tracks db₀ (UserOp.act bcrypt request w).db := by
  obtain ⟨context, tenantId, now, op⟩ := request
  cases op with
  | invite dto => exact (TenantUserManagementService.inviteUser_tracks bcrypt dto).runs tracks
  | updateRole userId dto =>
      exact (TenantUserManagementService.updateUserRole_tracks userId dto).runs tracks

theorem CatalogOp.act_tracks (request : Request CatalogOp) (tracks : Tracks db₀ w.db) :
    Tracks db₀ (CatalogOp.act platform request w).db := by
  obtain ⟨context, tenantId, now, op⟩ := request
  cases op with
  | category op => exact CategoryOp.act_tracks _ tracks
  | product op => exact ProductOp.act_tracks _ tracks
  | variant op => exact VariantOp.act_tracks _ tracks

theorem ShopOp.act_tracks (request : Request ShopOp) (tracks : Tracks db₀ w.db) :
    Tracks db₀ (ShopOp.act platform bcrypt request w).db := by
  obtain ⟨context, tenantId, now, op⟩ := request
  cases op with
  | catalog op => exact CatalogOp.act_tracks _ tracks
  | tenant op => exact TenantOp.act_tracks _ tracks
  | user op => exact UserOp.act_tracks _ tracks

end Tables

/-! ## The cache -/

theorem World.insert_cache {ρ : Type} [Stored ρ] {build : Uuid → Timestamp → ρ}
    {w w' : World}
    {row : ρ} (h : w.insert build = .ok (row, w')) : w'.cache = w.cache := by
  obtain ⟨db, -, last⟩ := bind_eq_ok.mp h
  cases last
  rfl

theorem World.update_cache {ρ : Type} [Stored ρ] {i : Uuid} {f : ρ → ρ} {w w' : World}
    (h : w.update i f = .ok w') : w'.cache = w.cache := by
  obtain ⟨db, -, last⟩ := bind_eq_ok.mp h
  cases last
  rfl

/-- The service puts nothing into the cache. -/
abbrev SetsNothing (cache : List (String × Cached)) {α : Type} (p : Svc α) : Prop :=
  Keeps (fun _ _ => True) (fun w => w.cache ⊆ cache) p

section Cache

variable {cache : List (String × Cached)} {w w' : World} {loaded : Database}

/-- A statement that writes leaves the cache alone. -/
theorem setsNothing_statement {α : Type} {label : Label} {act : World → Except Err (α × World)}
    (h : ∀ w a w', act w = .ok (a, w') → w'.cache = w.cache) :
    SetsNothing cache (statement label act) :=
  keeps_statement fun w a w' less _ written => by
    rw [h w a w' written]
    exact less

theorem setsNothing_saving {α : Type} {entity : StoredObject}
    {act : Database → World → Except Err (α × World)}
    (h : ∀ loaded w a w', act loaded w = .ok (a, w') → w'.cache = w.cache) :
    SetsNothing cache (saving entity act) :=
  keeps_bind (keeps_query _) fun loaded => setsNothing_statement (h loaded)

theorem setsNothing_record (context : Option AuditContextData) (input : AuditEventInput) :
    SetsNothing cache (AuditService.record context input) := by
  unfold AuditService.record
  split
  · exact ⟨fun _ less _ => less, fun _ => trivial⟩
  · exact keeps_throw _

theorem setsNothing_del (key : String) : SetsNothing cache (CacheService.del key) :=
  ⟨fun _ less _ _ mem => less (List.mem_of_mem_filter mem), fun _ => trivial⟩

theorem TenantService.saveLoaded_cache {draft : Draft} {saved : Tenant}
    (h : saveLoaded draft loaded w = .ok (saved, w')) : w'.cache = w.cache := by
  unfold saveLoaded at h
  split at h
  · obtain ⟨row, -, h⟩ := bind_eq_ok.mp h
    obtain ⟨db, -, last⟩ := bind_eq_ok.mp h
    cases last
    rfl
  · obtain ⟨row, -, h⟩ := bind_eq_ok.mp h
    obtain ⟨w₁, updated, last⟩ := bind_eq_ok.mp h
    cases last
    exact World.update_cache updated

theorem TenantUserManagementService.saveLoaded_cache {entity saved : User}
    (h : saveLoaded entity loaded w = .ok (saved, w')) : w'.cache = w.cache := by
  unfold saveLoaded at h
  split at h
  · obtain ⟨db, -, last⟩ := bind_eq_ok.mp h
    cases last
    rfl
  · obtain ⟨w₁, updated, last⟩ := bind_eq_ok.mp h
    cases last
    exact World.update_cache updated

theorem TenantService.setsNothing_findOne (id : String) : SetsNothing cache (findOne id) := by
  refine keeps_bind (keeps_query _) fun found => ?_
  cases found with
  | none => exact keeps_throw _
  | some tenant => exact keeps_pure _

theorem TenantOp.act_cache (request : Request TenantOp) (w : World) :
    (TenantOp.act request w).cache ⊆ w.cache := by
  obtain ⟨context, tenantId, now, op⟩ := request
  have within : w.cache ⊆ w.cache := fun _ mem => mem
  cases op with
  | create dto =>
      have sets : SetsNothing w.cache (TenantService.create dto) :=
        keeps_translated _ (setsNothing_statement fun _ _ _ h => World.insert_cache h)
      exact sets.runs within
  | update id dto =>
      have sets : SetsNothing w.cache (TenantService.update id dto) :=
        keeps_bind (TenantService.setsNothing_findOne id) fun _ => keeps_translated _
          (setsNothing_saving fun _ _ _ _ h => TenantService.saveLoaded_cache h)
      exact sets.runs within
  | remove id =>
      have sets : SetsNothing w.cache (TenantService.remove id) :=
        keeps_bind (TenantService.setsNothing_findOne id) fun _ =>
          keeps_bind (keeps_query _) fun _ => setsNothing_statement fun _ _ _ h => by
            obtain ⟨w₁, updated, last⟩ := bind_eq_ok.mp h
            cases last
            exact World.update_cache updated
      exact sets.runs within
  | findOne id =>
      have sets : SetsNothing w.cache (TenantService.findOne id) :=
        TenantService.setsNothing_findOne id
      exact sets.runs within

theorem UserOp.act_cache (bcrypt : Bcrypt) (request : Request UserOp) (w : World) :
    (UserOp.act bcrypt request w).cache ⊆ w.cache := by
  obtain ⟨context, tenantId, now, op⟩ := request
  have within : w.cache ⊆ w.cache := fun _ mem => mem
  cases op with
  | invite dto =>
      have sets : SetsNothing w.cache
          (TenantUserManagementService.inviteUser bcrypt context tenantId dto) := by
        refine keeps_bind (keeps_query _) fun _ => keeps_ite (keeps_throw _) (keeps_ite
          (keeps_throw _) (keeps_tryCatch (keeps_bind (setsNothing_statement fun w _ _ h => ?_)
            fun saved => ?_) fun e => ?_))
        · obtain ⟨tenant, -, inserted⟩ := bind_eq_ok.mp h
          exact World.insert_cache inserted
        · exact keeps_bind (setsNothing_record _ _) fun _ => keeps_pure _
        · exact keeps_ite (keeps_throw _) (keeps_throw _)
      exact sets.runs within
  | updateRole userId dto =>
      have sets : SetsNothing w.cache
          (TenantUserManagementService.updateUserRole context tenantId userId dto) := by
        refine keeps_bind (keeps_query _) fun found => ?_
        cases found with
        | none => exact keeps_throw _
        | some user =>
            refine keeps_ite (keeps_throw _) (keeps_tryCatch (keeps_bind ?_ fun saved => ?_)
              fun e => keeps_throw _)
            · exact setsNothing_saving fun _ _ _ _ h =>
                TenantUserManagementService.saveLoaded_cache h
            · exact keeps_bind (setsNothing_record _ _) fun _ =>
                keeps_bind (setsNothing_del _) fun _ => keeps_pure _
      exact sets.runs within

end Cache

/-! ## Cached categories -/

/-- A cached category is under its own id, and the parent in it is stored. -/
structure Linked (db : Database) (key : String) (value : Cached) : Prop where
  named : Cached.Named key value
  parent : ∀ entity, value = .category entity → ∀ p, entity.parentId = some p →
    db.categories.rows.any (·.id == p) = true

theorem Linked.mono {db db' : Database} {key : String} {value : Cached} (kept : IdsKept db db')
    (linked : Linked db key value) : Linked db' key value where
  named := linked.named
  parent entity same p up := kept.categories p (linked.parent entity same p up)

theorem CategoryService.fresh_linked {tenantId id : String} {ties : Uuid → ℕ} {w : World}
    {target : CategoryEntity} (h : (oneView tenantId id).fresh ties w = .ok target) :
    Linked w.db (CacheKeys.category tenantId id) (.category target) where
  named := fresh_named h
  parent entity same p up := by
    obtain ⟨row, -, read⟩ := readOne_ok.mp (orMissing_eq_ok.mp h)
    cases same
    rw [read] at up
    obtain ⟨columns, held, rfl⟩ := Option.map_eq_some_iff.mp up
    obtain ⟨c, above, rfl⟩ := Option.map_eq_some_iff.mp held
    obtain ⟨q, -, found⟩ := Option.bind_eq_some_iff.mp above
    exact List.any_eq_true.mpr ⟨c, Table.mem_of_find? found, beq_self_eq_true _⟩

theorem linked_fresh (platform : Platform) (db : Database) : FreshAll platform db (Linked db) where
  category _ _ _ _ _ same h := by
    subst same
    exact CategoryService.fresh_linked h
  categories _ _ _ _ _ asked same h :=
    ⟨(named_fresh platform db).categories _ _ _ _ _ asked same h,
      fun _ other => (nomatch other)⟩
  tree _ _ _ _ same h :=
    ⟨(named_fresh platform db).tree _ _ _ _ same h, fun _ other => (nomatch other)⟩
  product _ _ _ _ _ same h :=
    ⟨(named_fresh platform db).product _ _ _ _ _ same h, fun _ other => (nomatch other)⟩
  products _ _ _ _ _ asked same h :=
    ⟨(named_fresh platform db).products _ _ _ _ _ asked same h, fun _ other => (nomatch other)⟩

/-! ## Runs -/

/-- The rows pass their checks, and the cached categories are linked to them. -/
structure World.Orderly (w : World) : Prop where
  sound : Tenantory.Sound w.db
  linked : w.CachedAll (Linked w.db)

theorem ShopOp.act_orderly (platform : Platform) (bcrypt : Bcrypt) (request : Request ShopOp)
    {w : World} (orderly : w.Orderly) : (ShopOp.act platform bcrypt request w).Orderly := by
  obtain ⟨sound, kept⟩ := ShopOp.act_tracks request
    ⟨orderly.sound, IdsKept.refl w.db⟩
  have linked : (ShopOp.act platform bcrypt request w).CachedAll (Linked w.db) := by
    obtain ⟨context, tenantId, now, op⟩ := request
    cases op with
    | catalog op => exact CatalogOp.act_cachedAll (linked_fresh platform w.db) _ orderly.linked
    | tenant op => exact orderly.linked.of_subset (TenantOp.act_cache _ w)
    | user op => exact orderly.linked.of_subset (UserOp.act_cache bcrypt _ w)
  exact ⟨sound, fun entry mem => (linked entry mem).mono kept⟩

theorem orderly_reached {platform : Platform} {bcrypt : Bcrypt} {start w : World}
    (initial : start.Orderly)
    (reached : Request.Reached (ShopOp.act platform bcrypt) (fun _ _ => True) start w) :
    w.Orderly :=
  reached.invariant initial (fun _ _ orderly => ⟨orderly.sound, orderly.linked⟩)
    fun request _ orderly _ => ShopOp.act_orderly platform bcrypt request orderly

theorem SampleShop.unstocked_sound : Sound unstocked where
  categories c hc := by
    obtain rfl := List.mem_singleton.mp hc
    decide
  products p hp := by
    obtain rfl := List.mem_singleton.mp hp
    decide
  variants v hv := by
    obtain rfl := List.mem_singleton.mp hv
    decide

end Tenantory
