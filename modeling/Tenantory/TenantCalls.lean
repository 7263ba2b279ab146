import Tenantory.CategoryTree
import Tenantory.ConfinedNotices
import Tenantory.ConfinedStock
import Tenantory.SampleShop
import Tenantory.VariantRuns

/-! Runs of the calls of the catalog, of the stores, of the inventory and of the feeds, of
any tenants. What a tenant is answered and what becomes of its rows and cache entries is
the same as if no other tenant had ever called. -/

namespace Tenantory

open UuidText Svc

/-! ## Calls -/

inductive WarehouseOp
  | create (dto : CreateWarehouseDto)
  | update (id : String) (dto : UpdateWarehouseDto)
  | remove (id : String)
  | findOne (id : String)
  | findAll (query : WarehouseQueryDto)

inductive SupplierOp
  | create (dto : CreateSupplierDto)
  | update (id : String) (dto : UpdateSupplierDto)
  | remove (id : String)
  | findOne (id : String)
  | findAll (query : SupplierQueryDto)

inductive InventoryOp
  | findAll (query : StockQueryDto)
  | deduct (dto : StockDto)
  | replenish (dto : StockDto)
  | reserve (dto : StockDto)
  | release (dto : StockDto)

inductive NotificationOp
  | findFeed (recipientId : String) (request : NotificationQueryDto)
  | getUnreadCount (recipientId : String)
  | markRead (recipientId id : String)
  | markAllRead (recipientId : String)
  | remove (recipientId id : String)
  /-- what is dispatched to roles of the tenant -/
  | dispatch (payload : NotificationDispatchEvent)

inductive TenantCall
  | category (op : CategoryOp)
  | product (op : ProductOp)
  | variant (op : VariantOp)
  | warehouse (op : WarehouseOp)
  | supplier (op : SupplierOp)
  | inventory (op : InventoryOp)
  | notification (op : NotificationOp)

namespace TenantCall

def Answer : TenantCall → Type
  | category (.create _) | category (.update _ _) | category (.findOne _) => CategoryEntity
  | category (.remove _) => Unit
  | category (.findAll _) => PaginatedResponse CategoryEntity
  | category .findTree => List CategoryNode
  | product (.create _) | product (.update _ _) | product (.findOne _) => ProductEntity
  | product (.remove _) => Unit
  | product (.findAll _) => PaginatedResponse ProductEntity
  | variant (.create _ _) | variant (.update _ _ _) => ProductVariant
  | variant (.findOne _ _) | variant (.findOneById _) => ProductVariant
  | variant (.remove _ _) => Unit
  | variant (.findAll _ _) => PaginatedResponse ProductVariant
  | warehouse (.create _) | warehouse (.update _ _) | warehouse (.findOne _) => Warehouse
  | warehouse (.remove _) => Unit
  | warehouse (.findAll _) => PaginatedResponse Warehouse
  | supplier (.create _) | supplier (.update _ _) | supplier (.findOne _) => Supplier
  | supplier (.remove _) => Unit
  | supplier (.findAll _) => PaginatedResponse Supplier
  | inventory (.findAll _) => PaginatedResponse StockView
  | inventory (.replenish _) => StockLevel
  | inventory _ => Unit
  | notification (.findFeed _ _) => PaginatedResponse Notification
  | notification (.getUnreadCount _) | notification (.markAllRead _) => ℕ
  | notification _ => Unit

variable (platform : Platform) (context : Option AuditContextData) (tenantId : String)

def program : (call : TenantCall) → Svc call.Answer
  | category (.create dto) => CategoryService.create platform context tenantId dto
  | category (.update id dto) => CategoryService.update platform context tenantId id dto
  | category (.remove id) => CategoryService.remove context tenantId id
  | category (.findOne id) => CategoryService.findOne tenantId id
  | category (.findAll query) => CategoryService.findAll platform tenantId query
  | category .findTree => CategoryService.findTree platform tenantId
  | product (.create dto) => ProductService.create context tenantId dto
  | product (.update id dto) => ProductService.update context tenantId id dto
  | product (.remove id) => ProductService.remove context tenantId id
  | product (.findOne id) => ProductService.findOne tenantId id
  | product (.findAll query) => ProductService.findAll platform tenantId query
  | variant (.create productId dto) => VariantService.create context tenantId productId dto
  | variant (.update productId id dto) => VariantService.update context tenantId productId id dto
  | variant (.remove productId id) => VariantService.remove context tenantId productId id
  | variant (.findOne productId id) => VariantService.findOne tenantId productId id
  | variant (.findOneById id) => VariantService.findOneById tenantId id
  | variant (.findAll productId query) => VariantService.findAll platform tenantId productId query
  | warehouse (.create dto) => WarehouseService.create context tenantId dto
  | warehouse (.update id dto) => WarehouseService.update context tenantId id dto
  | warehouse (.remove id) => WarehouseService.remove context tenantId id
  | warehouse (.findOne id) => WarehouseService.findOne tenantId id
  | warehouse (.findAll query) => WarehouseService.findAll platform tenantId query
  | supplier (.create dto) => SupplierService.create context tenantId dto
  | supplier (.update id dto) => SupplierService.update context tenantId id dto
  | supplier (.remove id) => SupplierService.remove context tenantId id
  | supplier (.findOne id) => SupplierService.findOne tenantId id
  | supplier (.findAll query) => SupplierService.findAll platform tenantId query
  | inventory (.findAll query) => InventoryService.findAll platform tenantId query
  | inventory (.deduct dto) => InventoryService.deductStock context tenantId dto
  | inventory (.replenish dto) => InventoryService.replenish context tenantId dto
  | inventory (.reserve dto) => InventoryService.reserveStock context tenantId dto
  | inventory (.release dto) => InventoryService.releaseStock context tenantId dto
  | notification (.findFeed recipientId request) =>
      NotificationService.findFeed platform tenantId recipientId request
  | notification (.getUnreadCount recipientId) =>
      NotificationService.getUnreadCount platform tenantId recipientId
  | notification (.markRead recipientId id) => NotificationService.markRead tenantId recipientId id
  | notification (.markAllRead recipientId) => NotificationService.markAllRead tenantId recipientId
  | notification (.remove recipientId id) => NotificationService.remove tenantId recipientId id
  | notification (.dispatch payload) =>
      NotificationListener.handleDispatch
        { payload with tenantId := tenantId, recipientIds := [] }

/-- A stock list is sorted by what its rows show. -/
def SortsWithin (A : Uuid) : TenantCall → Prop
  | inventory (.findAll query) => query.SortsWithin platform A
  | _ => True

variable {platform} {context} {A : Uuid}

theorem within_program (call : TenantCall) (sorts : call.SortsWithin platform A) :
    Svc.Within A .none (call.program platform context (uuidOut A)) fun _ => .none := by
  have forget {α : Type} {p : Svc α} {Q : α → Fact} (h : Svc.Within A .none p Q) :
      Svc.Within A .none p fun _ => .none := h.mono (fun _ known => known) fun _ _ _ => trivial
  cases call with
  | category op =>
      cases op with
      | create dto => exact forget (CategoryService.within_create dto)
      | update id dto => exact forget (CategoryService.within_update id dto)
      | remove id => exact forget (CategoryService.within_remove id)
      | findOne id => exact forget (CategoryService.within_findOne id)
      | findAll query => exact forget (CategoryService.within_findAll query)
      | findTree => exact forget CategoryService.within_findTree
  | product op =>
      cases op with
      | create dto => exact forget (ProductService.within_create dto)
      | update id dto => exact forget (ProductService.within_update id dto)
      | remove id => exact forget (ProductService.within_remove id)
      | findOne id => exact forget (ProductService.within_findOne id)
      | findAll query => exact forget (ProductService.within_findAll query)
  | variant op =>
      cases op with
      | create productId dto => exact forget (VariantService.within_create productId dto)
      | update productId id dto => exact forget (VariantService.within_update productId id dto)
      | remove productId id => exact forget (VariantService.within_remove productId id)
      | findOne productId id => exact forget (VariantService.within_findOne productId id)
      | findOneById id => exact forget (VariantService.within_findOneById id)
      | findAll productId query => exact forget (VariantService.within_findAll productId query)
  | warehouse op =>
      cases op with
      | create dto => exact forget (WarehouseService.within_create dto)
      | update id dto => exact forget (WarehouseService.within_update id dto)
      | remove id => exact forget (WarehouseService.within_remove id)
      | findOne id => exact forget (WarehouseService.within_findOne id)
      | findAll query => exact forget (WarehouseService.within_findAll query)
  | supplier op =>
      cases op with
      | create dto => exact forget (SupplierService.within_create dto)
      | update id dto => exact forget (SupplierService.within_update id dto)
      | remove id => exact forget (SupplierService.within_remove id)
      | findOne id => exact forget (SupplierService.within_findOne id)
      | findAll query => exact forget (SupplierService.within_findAll query)
  | inventory op =>
      cases op with
      | findAll query => exact InventoryService.within_findAll sorts
      | deduct dto => exact InventoryService.within_deductStock
      | replenish dto => exact InventoryService.within_replenish
      | reserve dto => exact InventoryService.within_reserveStock
      | release dto => exact InventoryService.within_releaseStock
  | notification op =>
      cases op with
      | findFeed recipientId request =>
          exact forget (NotificationService.within_findFeed recipientId request)
      | getUnreadCount recipientId =>
          exact forget (NotificationService.within_getUnreadCount recipientId)
      | markRead recipientId id => exact forget (NotificationService.within_markRead recipientId id)
      | markAllRead recipientId => exact forget (NotificationService.within_markAllRead recipientId)
      | remove recipientId id => exact forget (NotificationService.within_remove recipientId id)
      | dispatch payload => exact forget (NotificationListener.within_handleDispatch rfl rfl)

/-- What the call makes of the state, also where it sorts by what it likes. -/
theorem acted_program (call : TenantCall) {w : World} (sound : w.Sound)
    (along : (call.program platform context (uuidOut A)).run.Along World.Fresh w) :
    w.Acted A ((call.program platform context (uuidOut A)).runs w).2 ∧
      ((call.program platform context (uuidOut A)).runs w).2.Sound := by
  have confined (sorts : call.SortsWithin platform A) :
      w.Acted A ((call.program platform context (uuidOut A)).runs w).2 ∧
        ((call.program platform context (uuidOut A)).runs w).2.Sound := by
    have within : Svc.Within A .none (call.program platform context (uuidOut A)) fun _ => .none :=
      within_program call sorts
    exact ⟨within.allowed w ⟨sound, trivial⟩ along,
      (within.meets w ⟨sound, trivial⟩ along).1⟩
  by_cases sorts : call.SortsWithin platform A
  · exact confined sorts
  · -- a stock list writes nothing
    cases call with
    | inventory op =>
        cases op with
        | findAll query =>
            have listed : ((InventoryService.findAll platform (uuidOut A) query).runs w).2 =
                { w with ties := fun n => w.ties (n + 1) } := by
              unfold InventoryService.findAll
              simp only [runs_bind, runs_listing]
              cases InventoryService.readPage platform (uuidOut A) query _ _ (w.ties 0) w with
              | error e => rfl
              | ok page => rfl
            refine ⟨?_, ?_⟩
            · show w.Acted A ((InventoryService.findAll platform (uuidOut A) query).runs w).2
              rw [listed]
              exact ⟨rfl, .refl w.db⟩
            · show ((InventoryService.findAll platform (uuidOut A) query).runs w).2.Sound
              rw [listed]
              exact { sound with }
        | _ => exact absurd trivial sorts
    | _ => exact absurd trivial sorts

end TenantCall

/-! ## States that the application comes to -/

/-- Between the calls tenants, users, settings and media come and change, cache entries of
users are written and any entries expire, and time goes on. No user goes to another tenant. -/
structure World.Aside (w w' : World) : Prop where
  tables : ∃ tenants users tenantSettings mediaAssets,
    w'.db = { w.db with tenants, users, tenantSettings, mediaAssets }
  users : ∀ A id, w.db.users.Owns A id → w'.db.users.Owns A id
  cache : ∀ entry ∈ w'.cache, entry ∈ w.cache ∨ ∃ user, entry.2 = .user user
  pending : w'.pending = w.pending

/-- The application has come to the state from one without rows of the seven services, with
an empty cache. The ids that its calls took were new. -/
inductive Opened (platform : Platform) : World → Prop
  | opens {w : World} : w.db.categories = ∅ → w.db.products = ∅ → w.db.variants = ∅ →
      w.db.warehouses = ∅ → w.db.suppliers = ∅ → w.db.stockLevels = ∅ →
        w.db.notifications = ∅ →
      w.cache = [] → w.pending = [] → Opened platform w
  | aside {w w' : World} : Opened platform w → w.Aside w' → Opened platform w'
  | serves {w : World} (context : Option AuditContextData) (A : Uuid) (call : TenantCall) :
      Opened platform w → (call.program platform context (uuidOut A)).run.Along World.Fresh w →
      Opened platform ((call.program platform context (uuidOut A)).runs w).2

section Reached

variable {platform : Platform} {w : World}

theorem World.Aside.sound {w' : World} (aside : w.Aside w') (sound : w.Sound) : w'.Sound := by
  obtain ⟨tenants, users, settings, media, same⟩ := aside.tables
  have ext : w.db.Extends w'.db := by
    have kept := aside.users
    rw [same] at kept ⊢
    exact { Database.Extends.refl w.db with users := kept }
  refine ⟨?_, fun entry mem => ?_, aside.pending.trans sound.idle⟩
  · rw [same]
    exact { sound.isolated with }
  · rcases aside.cache entry mem with old | ⟨user, cached⟩
    · exact (sound.cache entry old).mono ext
    · rw [cached]
      trivial

theorem Opened.sound (opened : Opened platform w) : w.Sound := by
  induction opened with
  | opens categories products variants warehouses suppliers stock notifications cache pending =>
      refine ⟨?_, fun entry mem => ?_, pending⟩
      · exact {
          parent := fun c mem => by rw [categories] at mem; cases mem
          category := fun p mem => by rw [products] at mem; cases mem
          product := fun v mem => by rw [variants] at mem; cases mem
          variant := fun s mem => by rw [stock] at mem; cases mem
          warehouse := fun s mem => by rw [stock] at mem; cases mem }
      · rw [cache] at mem
        cases mem
  | aside _ aside ih => exact aside.sound ih
  | serves context A call _ along ih => exact (TenantCall.acted_program call ih along).2

end Reached

/-- A call with the time at which it comes and what is generated for it. -/
structure Turn where
  tenant : Uuid
  call : TenantCall
  context : Option AuditContextData
  now : Timestamp
  tx : ℕ
  ids : ℕ → Uuid
  draws : ℕ → Double
  ties : ℕ → Uuid → ℕ

namespace Turn

variable (platform : Platform)

def arrive (turn : Turn) (w : World) : World :=
  { w with
    clock := turn.now
    nextTx := turn.tx
    ids := turn.ids
    draws := turn.draws
    ties := turn.ties }

def program (turn : Turn) : Svc turn.call.Answer :=
  turn.call.program platform turn.context (uuidOut turn.tenant)

def serve (turn : Turn) (w : World) : Except Err turn.call.Answer × World :=
  (turn.program platform).runs (turn.arrive w)

def Fresh (turn : Turn) (w : World) : Prop :=
  (turn.program platform).run.Along World.Fresh (turn.arrive w)

/-- The state that a list of turns leaves. -/
def after : List Turn → World → World
  | [], w => w
  | turn :: turns, w => after turns (turn.serve platform w).2

/-- What the tenant is answered. -/
def answers (A : Uuid) : List Turn → World →
    List ((call : TenantCall) × Except Err call.Answer)
  | [], _ => []
  | turn :: turns, w =>
      let rest := answers A turns (turn.serve platform w).2
      if turn.tenant == A then ⟨turn.call, (turn.serve platform w).1⟩ :: rest else rest

/-- The ids that the turns take are new. -/
def AllFresh : List Turn → World → Prop
  | [], _ => True
  | turn :: turns, w => turn.Fresh platform w ∧ AllFresh turns (turn.serve platform w).2

instance (turn : Turn) (w : World) : Decidable (turn.Fresh platform w) :=
  inferInstanceAs (Decidable ((turn.program platform).run.Along World.Fresh (turn.arrive w)))

instance decidableAllFresh : (turns : List Turn) → (w : World) →
    Decidable (AllFresh platform turns w)
  | [], _ => inferInstanceAs (Decidable True)
  | turn :: turns, w =>
      have := decidableAllFresh turns (turn.serve platform w).2
      inferInstanceAs (Decidable (turn.Fresh platform w ∧
        AllFresh platform turns (turn.serve platform w).2))

end Turn

section Turns

variable {platform : Platform}

theorem Turn.arrive_aside (turn : Turn) (w : World) : w.Aside (turn.arrive w) where
  tables := ⟨_, _, _, _, rfl⟩
  users _ _ owned := owned
  cache _ mem := .inl mem
  pending := rfl

theorem Turn.opened_serve {w : World} (turn : Turn) (opened : Opened platform w)
    (fresh : turn.Fresh platform w) : Opened platform (turn.serve platform w).2 :=
  (opened.aside (turn.arrive_aside w)).serves turn.context turn.tenant turn.call fresh

theorem Turn.opened_after {w : World} (turns : List Turn) (opened : Opened platform w)
    (fresh : Turn.AllFresh platform turns w) : Opened platform (Turn.after platform turns w) := by
  induction turns generalizing w with
  | nil => exact opened
  | cons turn turns ih => exact ih (turn.opened_serve opened fresh.1) fresh.2

end Turns

/-! ## Runs without the other tenants -/

/-- The rows and cache entries of the tenant. -/
def World.seen (A : Uuid) (w : World) : Database × List (String × Cached) :=
  (w.db.restrict A, w.cache.filter fun entry => CacheKeys.ofTenant A entry.1)

section Purge

variable {platform : Platform} {A B : Uuid} {w v : World}

theorem CacheKeys.ofTenant_inj {key : String} (hA : ofTenant A key = true)
    (hB : ofTenant B key = true) : A = B := by
  rw [ofTenant, List.isPrefixOf_iff_prefix] at hA hB
  obtain ⟨rest, split⟩ := hA
  obtain ⟨rest', split'⟩ := hB
  have same : tenantPrefix A ++ String.ofList rest = tenantPrefix B ++ String.ofList rest' := by
    rw [← String.toList_inj, String.toList_append, String.toList_append, String.toList_ofList,
      String.toList_ofList, split, split']
  exact (append_inj same).1

theorem Database.restrict_outside (apart : A ≠ B) (db : Database) :
    (db.outside B).restrict A = db.restrict A := by
  have among : ∀ {ρ : Type} [Entity ρ] (t : Table ρ),
      (t.ofOwners (· != B)).ofOwners (· == A) = t.ofOwners (· == A) := by
    intro ρ _ t
    refine Table.rows_inj ?_
    simp only [Table.ofOwners, Table.rows_only, List.filter_filter]
    refine List.filter_congr fun r _ => ?_
    by_cases own : Entity.owner r = A
    · simp [own, apart]
    · simp [own]
  simp only [Database.outside, Database.restrict, Database.ofOwners, among]

/-- What a tenant sees is among what is outside of another one. -/
theorem seen_of_outside (apart : A ≠ B) (same : v.outside B = w.outside B) :
    v.seen A = w.seen A := by
  have tables : (v.db.outside B).restrict A = (w.db.outside B).restrict A :=
    congrArg (fun part => Database.restrict A part.1) same
  have entries := congrArg
    (fun part => part.2.filter fun entry => CacheKeys.ofTenant A entry.1) same
  have among : ∀ u : World, (u.db.outside B).restrict A = u.db.restrict A := fun u =>
    Database.restrict_outside apart u.db
  have kept : ∀ u : World, (u.outside B).2.filter (fun entry => CacheKeys.ofTenant A entry.1) =
      u.cache.filter fun entry => CacheKeys.ofTenant A entry.1 := by
    intro u
    simp only [World.outside, List.filter_filter]
    refine List.filter_congr fun entry _ => ?_
    cases own : CacheKeys.ofTenant A entry.1 with
    | false => simp
    | true =>
        have foreign : CacheKeys.ofTenant B entry.1 = false := by
          by_contra both
          exact apart (CacheKeys.ofTenant_inj own (Bool.eq_true_of_not_eq_false both))
        simp [foreign]
  rw [among, among] at tables
  exact Prod.ext tables ((kept v).symm.trans (entries.trans (kept w)))

theorem Turn.arrive_restrict (turn : Turn) (sound : w.Sound) (sound' : v.Sound)
    (same : w.seen A = v.seen A) : (turn.arrive w).restrict A = (turn.arrive v).restrict A := by
  obtain ⟨tables, entries⟩ := Prod.ext_iff.mp same
  have tables : w.db.restrict A = v.db.restrict A := tables
  have entries : (w.cache.filter fun entry => CacheKeys.ofTenant A entry.1) =
      v.cache.filter fun entry => CacheKeys.ofTenant A entry.1 := entries
  simp only [World.restrict, Turn.arrive, tables, entries, sound.idle, sound'.idle]

theorem Turn.arrive_sound (turn : Turn) (sound : w.Sound) : (turn.arrive w).Sound :=
  { sound with }

theorem World.seen_of_restrict (same : w.restrict A = v.restrict A) : w.seen A = v.seen A :=
  congrArg (fun u : World => (u.db, u.cache)) same

/-- The runs with and without the turns of the others go hand in hand. -/
theorem purge_from (turns : List Turn) (sound : w.Sound) (sound' : v.Sound)
    (fresh : Turn.AllFresh platform turns w)
    (fresh' : Turn.AllFresh platform (turns.filter (·.tenant == A)) v)
    (sorts : ∀ turn ∈ turns, turn.tenant = A → turn.call.SortsWithin platform A)
    (same : w.seen A = v.seen A) :
    Turn.answers platform A turns w =
        Turn.answers platform A (turns.filter (·.tenant == A)) v ∧
      (Turn.after platform turns w).seen A =
        (Turn.after platform (turns.filter (·.tenant == A)) v).seen A := by
  induction turns generalizing w v with
  | nil => exact ⟨rfl, same⟩
  | cons turn turns ih =>
      have later := fun t mem => sorts t (List.mem_cons_of_mem turn mem)
      have served := TenantCall.acted_program turn.call (turn.arrive_sound sound) fresh.1
      by_cases own : turn.tenant = A
      · subst own
        have kept : (turn :: turns).filter (·.tenant == turn.tenant) =
            turn :: turns.filter (·.tenant == turn.tenant) :=
          List.filter_cons_of_pos (beq_self_eq_true turn.tenant)
        rw [kept] at fresh' ⊢
        have served' := TenantCall.acted_program turn.call (turn.arrive_sound sound') fresh'.1
        have within : Svc.Within turn.tenant .none (turn.program platform) fun _ => .none :=
          TenantCall.within_program turn.call (sorts turn List.mem_cons_self rfl)
        have alike := within.alike _ _ ⟨turn.arrive_sound sound, trivial⟩
          ⟨turn.arrive_sound sound', trivial⟩ fresh.1 fresh'.1
          (turn.arrive_restrict sound sound' same)
        have answer : (turn.serve platform w).1 = (turn.serve platform v).1 := alike.answer
        have rest := ih served.2 served'.2 fresh.2 fresh'.2 later
          (World.seen_of_restrict alike.seen)
        refine ⟨?_, rest.2⟩
        simp only [Turn.answers, beq_self_eq_true, if_true, answer]
        exact congrArg _ rest.1
      · have out : (turn.tenant == A) = false := by simpa using own
        have dropped : (turn :: turns).filter (·.tenant == A) = turns.filter (·.tenant == A) :=
          List.filter_cons_of_neg (by simpa using own)
        rw [dropped] at fresh' ⊢
        have still : (turn.serve platform w).2.seen A = w.seen A :=
          seen_of_outside (fun other => own other.symm) served.1.outside
        have rest := ih served.2 sound' fresh.2 fresh' later (still.trans same)
        refine ⟨?_, rest.2⟩
        simp only [Turn.answers, out]
        exact rest.1

end Purge

namespace SampleShop

def neighbour : Tenant := ⟨0x72, "globex", "Globex", .active, 0, 0, none⟩

/-- Two tenants before their first category. -/
def shared : World :=
  world { Database.empty with tenants := ⟨[tenant, neighbour], by decide⟩ }

theorem shared_opened : Opened plainText shared := .opens rfl rfl rfl rfl rfl rfl rfl rfl rfl

/-- The `n`th call, which is given the ids from `1000 * n` on. -/
def turn (n : ℕ) (tenant : Uuid) (call : TenantCall) : Turn where
  tenant := tenant
  call := call
  context := some ⟨some (uuidOut tenant), none, none, none, none⟩
  now := n
  tx := 100 * n
  ids k := BitVec.ofNat 128 (1000 * n + k)
  draws _ := 0
  ties _ _ := 0

/-- The first id that the `n`th call is given. -/
def idText (n : ℕ) : String := uuidOut (BitVec.ofNat 128 (1000 * n))

/-- Both tenants have a category and a product, which is cached with its category. The second
tenant names rows of the first one, and is refused. -/
def trading : List Turn :=
  [turn 1 0x71 (.category (.create ⟨"Shirts", .undefined, .undefined⟩)),
    turn 2 0x72 (.category (.create ⟨"Shirts", .undefined, .undefined⟩)),
    turn 3 0x71 (.product (.create ⟨"Shirt", .undefined, idText 1, "TSH", .undefined⟩)),
    turn 4 0x72 (.product (.create ⟨"Shirt", .undefined, idText 2, "TSH", .undefined⟩)),
    turn 5 0x72 (.product (.create ⟨"Cap", .undefined, idText 1, "CAP", .undefined⟩)),
    turn 6 0x71 (.product (.findOne (idText 3))),
    turn 7 0x72 (.product (.findOne (idText 3))),
    turn 8 0x72 (.product (.remove (idText 3))),
    turn 9 0x72 (.category (.update (idText 2) ⟨.value "Hats", .undefined, .undefined⟩)),
    turn 10 0x71 (.category .findTree)]

def traded : World := Turn.after plainText trading shared

/-- The same without the calls of the second tenant. -/
def alone : World := Turn.after plainText (trading.filter (·.tenant == 0x71)) shared

/-- Calls of the first tenant, the last two of which name rows of the second one. -/
def ownCalls : List TenantCall :=
  [.product (.update (idText 3) ⟨.value "Tee", .undefined, .undefined, .undefined, .undefined⟩),
    .category (.create ⟨"Polos", .undefined, .value (idText 1)⟩),
    .product (.findOne (idText 3)),
    .product (.update (idText 3) ⟨.undefined, .value (idText 2), .undefined, .undefined,
      .undefined⟩),
    .category (.remove (idText 2))]

def shirtKey : String := CacheKeys.product (uuidOut 0x71) (idText 3)

-- one statement, so that the runs are evaluated once
theorem trading_comes_to :
    (Turn.AllFresh plainText trading shared ∧
      Turn.AllFresh plainText (trading.filter (·.tenant == 0x71)) shared ∧
      ∀ call ∈ ownCalls, (turn 20 0x71 call).Fresh plainText traded ∧
        (turn 20 0x71 call).Fresh plainText alone) ∧
    (traded.db.products.rows.map fun p => (p.tenantId, p.categoryId)) =
      [(0x71, 1000), (0x72, 2000)] ∧
    ((traded.cached shirtKey).bind Cached.product?).isSome ∧
    (Turn.answers plainText 0x72 trading shared).map (fun answer => answer.2.isOk) =
      [true, true, false, false, false, true] ∧
    (ownCalls.map fun call => ((turn 20 0x71 call).serve plainText traded).1.isOk) =
      [true, true, true, false, false] := by
  decide +kernel

theorem trading_fresh : Turn.AllFresh plainText trading shared := trading_comes_to.1.1

theorem alone_fresh : Turn.AllFresh plainText (trading.filter (·.tenant == 0x71)) shared :=
  trading_comes_to.1.2.1

theorem ownCalls_fresh : ∀ call ∈ ownCalls,
    (turn 20 0x71 call).Fresh plainText traded ∧ (turn 20 0x71 call).Fresh plainText alone :=
  trading_comes_to.1.2.2

theorem traded_opened : Opened plainText traded := Turn.opened_after _ shared_opened trading_fresh

theorem alone_opened : Opened plainText alone := Turn.opened_after _ shared_opened alone_fresh

theorem trading_sorts : ∀ turn ∈ trading, turn.call.SortsWithin plainText A := by
  simp [trading, turn, TenantCall.SortsWithin]

theorem traded_seen : traded.seen 0x71 = alone.seen 0x71 :=
  (purge_from trading shared_opened.sound shared_opened.sound trading_fresh alone_fresh
    (fun turn mem _ => trading_sorts turn mem) rfl).2

/-- The product of the first tenant is in the cache. -/
theorem shirt_cached : ∃ shirt, traded.cached shirtKey = some (.product shirt) := by
  obtain ⟨shirt, shown⟩ := Option.isSome_iff_exists.mp trading_comes_to.2.2.1
  obtain ⟨value, cached, product⟩ := Option.bind_eq_some_iff.mp shown
  cases value <;> cases product
  exact ⟨shirt, cached⟩

end SampleShop

/-! ## Noninterference -/

/-- From states that agree on what the tenant sees, a call of the tenant has the same outcome;
what the others see stays as it is. -/
theorem call_confined {platform : Platform} {w v : World} (opened : Opened platform w)
    (opened' : Opened platform v) (A : Uuid) (context : Option AuditContextData)
    (call : TenantCall) (sorts : call.SortsWithin platform A)
    (fresh : (call.program platform context (uuidOut A)).run.Along World.Fresh w)
    (fresh' : (call.program platform context (uuidOut A)).run.Along World.Fresh v)
    (same : w.restrict A = v.restrict A) :
    ((call.program platform context (uuidOut A)).runs w).1 =
        ((call.program platform context (uuidOut A)).runs v).1 ∧
      ((call.program platform context (uuidOut A)).runs w).2.restrict A =
        ((call.program platform context (uuidOut A)).runs v).2.restrict A ∧
      ((call.program platform context (uuidOut A)).runs w).2.outside A = w.outside A := by
  have within : Svc.Within A .none (call.program platform context (uuidOut A)) fun _ => .none :=
    TenantCall.within_program call sorts
  have alike := within.alike w v ⟨opened.sound, trivial⟩ ⟨opened'.sound, trivial⟩
    fresh fresh' same
  exact ⟨alike.answer, alike.seen, (within.allowed w ⟨opened.sound, trivial⟩ fresh).outside⟩

theorem call_confined_shared :
    (SampleShop.ownCalls.map fun call =>
        ((SampleShop.turn 20 0x71 call).serve SampleShop.plainText SampleShop.traded).1.isOk) =
      [true, true, true, false, false] ∧
    ∀ call ∈ SampleShop.ownCalls, let turn := SampleShop.turn 20 0x71 call
      (turn.serve SampleShop.plainText SampleShop.traded).1 =
          (turn.serve SampleShop.plainText SampleShop.alone).1 ∧
        (turn.serve SampleShop.plainText SampleShop.traded).2.restrict 0x71 =
          (turn.serve SampleShop.plainText SampleShop.alone).2.restrict 0x71 ∧
        (turn.serve SampleShop.plainText SampleShop.traded).2.outside 0x71 =
          (turn.arrive SampleShop.traded).outside 0x71 := by
  refine ⟨SampleShop.trading_comes_to.2.2.2.2, fun call mem => ?_⟩
  have sorts : call.SortsWithin SampleShop.plainText 0x71 := by
    revert call
    simp [SampleShop.ownCalls, TenantCall.SortsWithin]
  exact call_confined (SampleShop.traded_opened.aside (Turn.arrive_aside _ _))
    (SampleShop.alone_opened.aside (Turn.arrive_aside _ _)) 0x71 _ call sorts
    (SampleShop.ownCalls_fresh call mem).1 (SampleShop.ownCalls_fresh call mem).2
    (Turn.arrive_restrict _ SampleShop.traded_opened.sound SampleShop.alone_opened.sound
      SampleShop.traded_seen)

/-- In every state of the application references stay within a tenant, and an object under a
cache key of a tenant shows rows of that tenant. -/
theorem references_within {platform : Platform} {w : World} (opened : Opened platform w) :
    w.db.Isolated ∧ ∀ A id,
      (∀ e, w.cached (CacheKeys.category (uuidOut A) id) = some (.category e) →
        uuidIn id = some e.id ∧ e.OwnedBy A w.db) ∧
      ∀ e, w.cached (CacheKeys.product (uuidOut A) id) = some (.product e) →
        e.OwnedBy A w.db := by
  have stored {key : String} {value : Cached} (cached : w.cached key = some value) :
      value.Fits w.db key := by
    obtain ⟨entry, found, rfl⟩ := Option.map_eq_some_iff.mp cached
    have named : entry.1 = key := by simpa using List.find?_some found
    exact named ▸ opened.sound.cache entry (List.mem_of_find?_eq_some found)
  exact ⟨opened.sound.isolated, fun A id => ⟨fun e cached => stored cached A id rfl,
    fun e cached => stored cached A id rfl⟩⟩

theorem references_within_shared :
    (SampleShop.traded.db.products.rows.map fun p => (p.tenantId, p.categoryId)) =
      [(0x71, 1000), (0x72, 2000)] ∧
    SampleShop.traded.db.Isolated ∧
    ∃ shirt, SampleShop.traded.cached SampleShop.shirtKey = some (.product shirt) ∧
      shirt.OwnedBy 0x71 SampleShop.traded.db := by
  obtain ⟨isolated, owned⟩ := references_within SampleShop.traded_opened
  obtain ⟨shirt, cached⟩ := SampleShop.shirt_cached
  exact ⟨SampleShop.trading_comes_to.2.1, isolated, shirt, cached, (owned _ _).2 shirt cached⟩

/-- The tenant is answered, and has its rows and cache entries, as if no other tenant had
called since a state that the application has come to. -/
theorem others_unnoticed {platform : Platform} {w : World} (opened : Opened platform w) (A : Uuid)
    (turns : List Turn) (fresh : Turn.AllFresh platform turns w)
    (fresh' : Turn.AllFresh platform (turns.filter (·.tenant == A)) w)
    (sorts : ∀ turn ∈ turns, turn.tenant = A → turn.call.SortsWithin platform A) :
    Turn.answers platform A turns w =
        Turn.answers platform A (turns.filter (·.tenant == A)) w ∧
      (Turn.after platform turns w).seen A =
        (Turn.after platform (turns.filter (·.tenant == A)) w).seen A :=
  purge_from turns opened.sound opened.sound fresh fresh' sorts rfl

theorem others_unnoticed_shared :
    (Turn.answers SampleShop.plainText 0x72 SampleShop.trading SampleShop.shared).map
      (fun answer => answer.2.isOk) = [true, true, false, false, false, true] ∧
    Turn.answers SampleShop.plainText 0x71 SampleShop.trading SampleShop.shared =
      Turn.answers SampleShop.plainText 0x71 (SampleShop.trading.filter (·.tenant == 0x71))
        SampleShop.shared ∧
    SampleShop.traded.seen 0x71 = SampleShop.alone.seen 0x71 :=
  ⟨SampleShop.trading_comes_to.2.2.2.1, others_unnoticed SampleShop.shared_opened 0x71
    SampleShop.trading
    SampleShop.trading_fresh SampleShop.alone_fresh
    fun turn mem _ => SampleShop.trading_sorts turn mem⟩

end Tenantory
