import Tenantory.ConfinedRuns
import Tenantory.ProductService
import Tenantory.SerialRuns
import Tenantory.TenantOwnership

/-! What one tenant sees of the application and what is kept from it. A service of a
tenant is confined when its answer and its effect on the tenant's rows and cache
entries depend on these alone and everything of the other tenants stays as it is.
Facts about stored rows that one statement has found stay true for the next. -/

namespace Tenantory

open UuidText

/-! ## The tenant's part of the state -/

namespace CacheKeys

/-- What the cache keys of a tenant begin with. -/
def tenantPrefix (A : Uuid) : String := "t:" ++ uuidOut A ++ ":"

def ofTenant (A : Uuid) (key : String) : Bool := (tenantPrefix A).toList.isPrefixOf key.toList

theorem ofTenant_append (A : Uuid) (rest : String) :
    ofTenant A (tenantPrefix A ++ rest) = true := by
  rw [ofTenant, String.toList_append, List.isPrefixOf_iff_prefix]
  exact List.prefix_append _ _

theorem ofTenant_of_append {A : Uuid} {key rest : String} (h : key = tenantPrefix A ++ rest) :
    ofTenant A key = true := h ▸ ofTenant_append A rest

theorem category_eq (A : Uuid) (id : String) :
    category (uuidOut A) id = tenantPrefix A ++ ("category:" ++ id) := by
  simp [category, tenantPrefix, String.append_assoc, ← String.toList_inj]

theorem product_eq (A : Uuid) (id : String) :
    product (uuidOut A) id = tenantPrefix A ++ ("product:" ++ id) := by
  simp [product, tenantPrefix, String.append_assoc, ← String.toList_inj]

theorem categoriesList_eq (platform : Platform) (A : Uuid) (query : Json) :
    categoriesList platform (uuidOut A) query =
      tenantPrefix A ++ ("categories:list:" ++ platform.digest query) := by
  simp [categoriesList, tenantPrefix, String.append_assoc, ← String.toList_inj]

theorem productsList_eq (platform : Platform) (A : Uuid) (query : Json) :
    productsList platform (uuidOut A) query =
      tenantPrefix A ++ ("products:list:" ++ platform.digest query) := by
  simp [productsList, tenantPrefix, String.append_assoc, ← String.toList_inj]

theorem categoriesTree_eq (A : Uuid) :
    categoriesTree (uuidOut A) = tenantPrefix A ++ "categories:tree" := by
  simp [categoriesTree, tenantPrefix, ← String.toList_inj]

theorem categoriesPattern_eq (A : Uuid) :
    categoriesPattern (uuidOut A) = tenantPrefix A ++ "categories:*" := by
  simp [categoriesPattern, tenantPrefix, ← String.toList_inj]

theorem productsPattern_eq (A : Uuid) :
    productsPattern (uuidOut A) = tenantPrefix A ++ "products:*" := by
  simp [productsPattern, tenantPrefix, ← String.toList_inj]

theorem length_tenantPrefix (A : Uuid) : (tenantPrefix A).toList.length = 39 := by
  simp [tenantPrefix, length_uuidOut]

/-- A key tells the tenant and what follows. -/
theorem append_inj {A B : Uuid} {rest rest' : String}
    (h : tenantPrefix A ++ rest = tenantPrefix B ++ rest') : A = B ∧ rest = rest' := by
  have lists := congrArg String.toList h
  rw [String.toList_append, String.toList_append] at lists
  obtain ⟨same, tail⟩ :=
    List.append_inj lists (by rw [length_tenantPrefix, length_tenantPrefix])
  refine ⟨uuidOut_injective ?_, String.toList_inj.mp tail⟩
  have inner : (uuidOut A).toList ++ [':'] = (uuidOut B).toList ++ [':'] := by
    simpa [tenantPrefix] using same
  exact String.toList_inj.mp (List.append_cancel_right inner)

theorem category_inj {A B : Uuid} {id id' : String}
    (h : category (uuidOut A) id = category (uuidOut B) id') : A = B ∧ id = id' := by
  rw [category_eq, category_eq] at h
  obtain ⟨owner, rest⟩ := append_inj h
  exact ⟨owner, String.toList_inj.mp (by simpa [← String.toList_inj] using rest)⟩

theorem product_inj {A B : Uuid} {id id' : String}
    (h : product (uuidOut A) id = product (uuidOut B) id') : A = B := by
  rw [product_eq, product_eq] at h
  exact (append_inj h).1

theorem plain_of_mem {A : Uuid} {c : Char} (h : c ∈ (uuidOut A).toList) :
    c ≠ '*' ∧ c ≠ '?' ∧ c ≠ '\\' := by
  rw [uuidOut, String.toList_ofList] at h
  refine of_mem_writeBytes (p := fun c => c ≠ '*' ∧ c ≠ '?' ∧ c ≠ '\\') ?_ ?_ h
  · decide
  · decide

/-- A pattern under the tenant's prefix matches keys of the tenant only. -/
theorem ofTenant_of_glob {A : Uuid} {pattern rest key : String}
    (eq : pattern = tenantPrefix A ++ rest) (h : CacheService.glob pattern key = true) :
    ofTenant A key = true := by
  rw [CacheService.glob, eq, String.toList_append] at h
  rw [ofTenant, List.isPrefixOf_iff_prefix]
  refine prefix_of_wildcard (fun c hc => ?_) h
  have parts : c = 't' ∨ c = ':' ∨ c ∈ (uuidOut A).toList ∨ c = ':' := by
    simpa [tenantPrefix] using hc
  rcases parts with rfl | rfl | digit | rfl
  · decide
  · decide
  · exact plain_of_mem digit
  · decide

end CacheKeys

namespace World

/-- The rows and cache entries of the tenant, with the clock and the supplies of ids,
random numbers and tie-breakers that its services go on with. -/
def restrict (A : Uuid) (w : World) : World :=
  { w with
    db := w.db.restrict A
    cache := w.cache.filter fun entry => CacheKeys.ofTenant A entry.1
    journal := [] }

theorem restrict_db (A : Uuid) (w : World) : (w.restrict A).db = w.db.restrict A := rfl

@[simp] theorem restrict_restrict (A : Uuid) (w : World) :
    (w.restrict A).restrict A = w.restrict A := by
  simp [restrict]

/-- The rows and cache entries of the others. -/
def outside (A : Uuid) (w : World) : Database × List (String × Cached) :=
  (w.db.outside A, w.cache.filter fun entry => !CacheKeys.ofTenant A entry.1)

end World

/-- The ids that come next are new and different from each other. -/
structure World.FreshFor (n : ℕ) (w : World) : Prop where
  unused : ∀ i < n, w.db.Unused (w.ids i)
  distinct : ∀ i < n, ∀ j < n, w.ids i = w.ids j → i = j

/-- As many as there are users, whom one statement may write to, and one more. -/
def World.Fresh (w : World) : Prop := w.FreshFor (w.db.users.rows.length + 1)

instance (w : World) : Decidable w.Fresh :=
  decidable_of_iff ((∀ i < w.db.users.rows.length + 1, w.db.Unused (w.ids i)) ∧
      ∀ i < w.db.users.rows.length + 1, ∀ j < w.db.users.rows.length + 1,
        w.ids i = w.ids j → i = j)
    ⟨fun ⟨unused, distinct⟩ => ⟨unused, distinct⟩, fun h => ⟨h.unused, h.distinct⟩⟩

theorem World.FreshFor.mono {m n : ℕ} {w : World} (fresh : w.FreshFor n) (less : m ≤ n) :
    w.FreshFor m where
  unused i hi := fresh.unused i (Nat.lt_of_lt_of_le hi less)
  distinct i hi j hj := fresh.distinct i (Nat.lt_of_lt_of_le hi less) j (Nat.lt_of_lt_of_le hj less)

theorem World.Fresh.next {w : World} (fresh : w.Fresh) : w.db.Unused (w.ids 0) :=
  fresh.unused 0 (Nat.succ_pos _)

/-- What a tenant may make of the state: the others' part is left as it is, and no row goes to
another tenant. -/
structure World.Acted (A : Uuid) (w w' : World) : Prop where
  outside : w'.outside A = w.outside A
  extend : w.db.Extends w'.db

/-- A tenant sees its part of the state. -/
def tenantRealm (A : Uuid) : Realm World World where
  view := World.restrict A
  allows := World.Acted A
  assumed := World.Fresh
  refl w := ⟨rfl, .refl w.db⟩
  trans h h' := ⟨h'.outside.trans h.outside, h.extend.trans h'.extend⟩

/-! ## Facts -/

/-- What is known of stored rows and stays true. -/
structure Fact where
  holds : Database → Prop
  mono : ∀ {db db' : Database}, db.Extends db' → holds db → holds db'

namespace Fact

/-- A proposition that does not speak about the database. -/
def pure (p : Prop) : Fact := ⟨fun _ => p, fun _ h => h⟩

def and (P Q : Fact) : Fact :=
  ⟨fun db => P.holds db ∧ Q.holds db, fun ext h => ⟨P.mono ext h.1, Q.mono ext h.2⟩⟩

def all {α : Type} (P : α → Fact) : Fact :=
  ⟨fun db => ∀ a, (P a).holds db, fun ext h a => (P a).mono ext (h a)⟩

def none : Fact := pure True

/-- What is known of what has been found. -/
def found {α : Type} (P : α → Fact) : Option α → Fact
  | some a => P a
  | .none => none

def user (A id : Uuid) : Fact := ⟨fun db => db.users.Owns A id, fun ext => ext.users A id⟩

def category (A id : Uuid) : Fact :=
  ⟨fun db => db.categories.Owns A id, fun ext => ext.categories A id⟩

def product (A id : Uuid) : Fact :=
  ⟨fun db => db.products.Owns A id, fun ext => ext.products A id⟩

def variant (A id : Uuid) : Fact :=
  ⟨fun db => db.variants.Owns A id, fun ext => ext.variants A id⟩

def warehouse (A id : Uuid) : Fact :=
  ⟨fun db => db.warehouses.Owns A id, fun ext => ext.warehouses A id⟩

def supplier (A id : Uuid) : Fact :=
  ⟨fun db => db.suppliers.Owns A id, fun ext => ext.suppliers A id⟩

def stock (A id : Uuid) : Fact :=
  ⟨fun db => db.stockLevels.Owns A id, fun ext => ext.stockLevels A id⟩

end Fact

/-- A category object whose id, parent and children are rows of the tenant. -/
structure CategoryEntity.OwnedBy (A : Uuid) (e : CategoryEntity) (db : Database) : Prop where
  id : db.categories.Owns A e.id
  parent : ∀ p, e.parent = some (some p) → db.categories.Owns A p.id
  children : ∀ cs, e.children = some cs → ∀ c ∈ cs, db.categories.Owns A c.id

structure ProductEntity.OwnedBy (A : Uuid) (e : ProductEntity) (db : Database) : Prop where
  id : db.products.Owns A e.id
  tenant : e.tenantId = A
  category : ∀ c, e.category = some (some c) → ∃ u, c.key = .ok u ∧ db.categories.Owns A u
  variants : ∀ vs, e.variants = some vs → ∀ v ∈ vs, db.variants.Owns A v.id

def Fact.categoryEntity (A : Uuid) (e : CategoryEntity) : Fact where
  holds := e.OwnedBy A
  mono ext h :=
    ⟨ext.categories _ _ h.id, fun p hp => ext.categories _ _ (h.parent p hp),
      fun cs hcs c hc => ext.categories _ _ (h.children cs hcs c hc)⟩

def Fact.productEntity (A : Uuid) (e : ProductEntity) : Fact where
  holds := e.OwnedBy A
  mono ext h :=
    ⟨ext.products _ _ h.id, h.tenant,
      fun c hc => (h.category c hc).imp fun _ both => ⟨both.1, ext.categories _ _ both.2⟩,
      fun vs hvs v hv => ext.variants _ _ (h.variants vs hvs v hv)⟩

/-! ## The invariant -/

/-- Under the key of a category or product of a tenant stands an object of that tenant. -/
def Cached.Fits (db : Database) (key : String) : Cached → Prop
  | .category e => ∀ A id, key = CacheKeys.category (uuidOut A) id →
      uuidIn id = some e.id ∧ e.OwnedBy A db
  | .product e => ∀ A id, key = CacheKeys.product (uuidOut A) id → e.OwnedBy A db
  | _ => True

theorem Cached.Fits.mono {db db' : Database} {key : String} {value : Cached}
    (ext : db.Extends db') (h : value.Fits db key) : value.Fits db' key := by
  cases value with
  | category e =>
      exact fun A id hk => ⟨(h A id hk).1, (Fact.categoryEntity A e).mono ext (h A id hk).2⟩
  | product e => exact fun A id hk => (Fact.productEntity A e).mono ext (h A id hk)
  | _ => trivial

/-- What holds of the state between the calls. -/
structure World.Sound (w : World) : Prop where
  isolated : w.db.Isolated
  cache : ∀ entry ∈ w.cache, entry.2.Fits w.db entry.1
  idle : w.pending = []

/-- The service is confined to the tenant and leaves a sound state; when it answers, the
facts of its answer hold. -/
def Svc.Within {α : Type} (A : Uuid) (P : Fact) (p : Svc α) (Q : α → Fact) : Prop :=
  (tenantRealm A).Confines (fun w => w.Sound ∧ P.holds w.db) p.run
    fun r w => w.Sound ∧ ∀ a, r = .ok a → (Q a).holds w.db

/-! ## Rules -/

namespace Svc

variable {α β : Type} {A : Uuid} {P P' : Fact} {Q Q' : α → Fact} {R : β → Fact} {p : Svc α}

theorem Within.mono (h : Within A P p Q) (pre : ∀ db, P'.holds db → P.holds db)
    (post : ∀ a db, (Q a).holds db → (Q' a).holds db) : Within A P' p Q' :=
  Realm.Confines.mono h (fun _ known => ⟨known.1, pre _ known.2⟩)
    fun _ _ known => ⟨known.1, fun a ha => post a _ (known.2 a ha)⟩

theorem Within.weaken (h : Within A .none p Q) : Within A P p Q :=
  h.mono (fun _ _ => trivial) fun _ _ h => h

/-- What was known before is known after. -/
theorem Within.keeping (h : Within A P p Q) :
    (tenantRealm A).Confines (fun w => w.Sound ∧ P.holds w.db) p.run
      fun r w => w.Sound ∧ P.holds w.db ∧ ∀ a, r = .ok a → (Q a).holds w.db := by
  have kept := Realm.Confines.frame (F := fun w => P.holds w.db) h
    fun _ _ step => P.mono step.extend
  exact kept.mono (fun _ known => ⟨known, known.2⟩)
    fun _ _ known => ⟨known.1.1, known.2, known.1.2⟩

theorem within_pure {a : α} (h : ∀ db, P.holds db → (Q a).holds db) :
    Within A P (pure a : Svc α) Q :=
  Realm.confines_ret fun _ known => ⟨known.1, fun b hb => by cases hb; exact h _ known.2⟩

theorem within_throw {e : Err} : Within A P (throw e : Svc α) Q :=
  Realm.confines_ret fun _ known => ⟨known.1, fun _ ha => nomatch ha⟩

theorem Within.bind {f : α → Svc β} (h : Within A P p Q)
    (rest : ∀ a, Within A (P.and (Q a)) (f a) R) : Within A P (p >>= f) R := by
  unfold Within
  rw [run_bind]
  refine Realm.Confines.bind h.keeping fun r => ?_
  cases r with
  | ok a =>
      exact Realm.Confines.mono (rest a)
        (fun _ known => ⟨known.1, known.2.1, known.2.2 a rfl⟩) fun _ _ known => known
  | error e => exact Realm.confines_ret fun _ known => ⟨known.1, fun _ ha => nomatch ha⟩

theorem Within.map (h : Within A P p Q) (f : α → β)
    (post : ∀ a db, (Q a).holds db → (R (f a)).holds db) : Within A P (f <$> p) R := by
  rw [map_eq_pure_bind]
  exact h.bind fun a => within_pure fun db known => post a db known.2

theorem Within.tryCatch {handle : Err → Svc α} (h : Within A P p Q)
    (rest : ∀ e, Within A P (handle e) Q) : Within A P (tryCatch p handle) Q := by
  unfold Within
  rw [run_tryCatch]
  refine Realm.Confines.bind h.keeping fun r => ?_
  cases r with
  | ok a =>
      exact Realm.confines_ret fun _ known => ⟨known.1, fun b hb => by
        cases hb
        exact known.2.2 a rfl⟩
  | error e =>
      exact Realm.Confines.mono (rest e) (fun _ known => ⟨known.1, known.2.1⟩)
        fun _ _ known => known

theorem within_translated {taken : Err} (h : Within A P p Q) :
    Within A P (translated taken p) Q := by
  refine h.tryCatch fun e => ?_
  by_cases unique : isUniqueViolation e = true
  · simp only [unique, if_true]
    exact within_throw
  · simp only [unique]
    exact within_throw

theorem within_ite {c : Prop} [Decidable c] {q : Svc α} (yes : c → Within A P p Q)
    (no : ¬ c → Within A P q Q) : Within A P (if c then p else q) Q := by
  split
  · rename_i h
    exact yes h
  · rename_i h
    exact no h

theorem within_mapM {f : β → Svc α} (h : ∀ b, Within A P (f b) Q) (found : Option β) :
    Within A P (found.mapM f) (Fact.found Q) := by
  cases found with
  | none => exact within_pure fun _ _ => trivial
  | some b => exact (h b).map some fun _ _ known => known

/-- A program as one step, on the whole state and on the tenant's part of it. -/
theorem confines_part {p : Step β} {pre : World → Prop} {post : β → World → Prop}
    (alike : ∀ w, pre w → w.Fresh → (p.run (w.restrict A)).1 = (p.run w).1 ∧
      (p.run (w.restrict A)).2.restrict A = (p.run w).2.restrict A)
    (step : ∀ w, pre w → w.Fresh → w.Acted A (p.run w).2 ∧ post (p.run w).1 (p.run w).2) :
    (tenantRealm A).Confines pre p post where
  alike w v hw hv along along' same := by
    have same : w.restrict A = v.restrict A := same
    have left := alike w hw along.first
    have right := alike v hv along'.first
    rw [same] at left
    exact ⟨left.1.symm.trans right.1, left.2.symm.trans right.2⟩
  allowed w known along := (step w known along.first).1
  meets w known along := (step w known along.first).2

theorem within_run
    (alike : ∀ w, w.Sound → w.Fresh → P.holds w.db →
      (p.runs (w.restrict A)).1 = (p.runs w).1 ∧
      (p.runs (w.restrict A)).2.restrict A = (p.runs w).2.restrict A)
    (step : ∀ w, w.Sound → w.Fresh → P.holds w.db → w.Acted A (p.runs w).2 ∧
      (p.runs w).2.Sound ∧ ∀ a, (p.runs w).1 = .ok a → (Q a).holds (p.runs w).2.db) :
    Within A P p Q :=
  confines_part (fun w known fresh => alike w known.1 fresh known.2)
    fun w known fresh => step w known.1 fresh known.2

theorem within_query {read : World → Except Err α}
    (h : ∀ w, w.Sound → P.holds w.db → read (w.restrict A) = read w ∧
      ∀ a, read w = .ok a → (Q a).holds w.db) : Within A P (query read) Q :=
  within_run (fun w sound _ hp => ⟨(h w sound hp).1, World.restrict_restrict A w⟩)
    fun w sound _ hp => ⟨(tenantRealm A).refl w, sound, (h w sound hp).2⟩

theorem within_listing {read : (Uuid → ℕ) → World → Except Err α}
    (h : ∀ w, w.Sound → P.holds w.db → ∀ ties, read ties (w.restrict A) = read ties w) :
    Within A P (listing read) fun _ => .none :=
  within_run (fun w sound _ hp => ⟨h w sound hp _, by simp [World.restrict]⟩)
    fun w sound _ _ => ⟨⟨rfl, .refl w.db⟩, { sound with }, fun _ _ => trivial⟩

theorem within_emit {event : Event} : Within A P (emit event) fun _ => .none :=
  within_run (fun w _ _ _ => ⟨rfl, by simp [World.restrict]⟩)
    fun w sound _ _ => ⟨⟨rfl, .refl w.db⟩, { sound with }, fun _ _ => trivial⟩

theorem within_record {context : Option AuditContextData} {input : AuditEventInput} :
    Within A P (AuditService.record context input) fun _ => .none := by
  unfold AuditService.record
  cases AuditService.event? context input with
  | none => exact within_throw
  | some event => exact within_emit

/-! ### Cache commands -/

theorem cached_restrict {key : String} (own : CacheKeys.ofTenant A key = true) (w : World) :
    (w.restrict A).cached key = w.cached key := by
  refine congrArg (Option.map Prod.snd) ?_
  show (w.cache.filter fun entry => CacheKeys.ofTenant A entry.1).find? (·.1 == key) = _
  rw [List.find?_filter]
  congr 1
  funext entry
  by_cases same : entry.1 = key
  · simp [same, own]
  · simp [same]

theorem within_get {key : String} {read : Cached → Option α}
    (own : CacheKeys.ofTenant A key = true)
    (fits : ∀ db value a, value.Fits db key → read value = some a → (Q a).holds db) :
    Within A P (CacheService.get key read) (Fact.found Q) := by
  refine within_run (fun w _ _ _ => ⟨?_, World.restrict_restrict A w⟩)
    fun w sound _ _ => ⟨(tenantRealm A).refl w, sound, fun found answered => ?_⟩
  · rw [runs_get, runs_get, cached_restrict own]
  · obtain rfl := Except.ok.inj answered
    change (Fact.found Q ((w.cached key).bind read)).holds w.db
    cases hc : w.cached key with
    | none => trivial
    | some value =>
        cases hv : read value with
        | none =>
            rw [Option.bind_some, hv]
            trivial
        | some a =>
            obtain ⟨entry, he, rfl⟩ := Option.map_eq_some_iff.mp hc
            have stored := sound.cache entry (List.mem_of_find?_eq_some he)
            have same : entry.1 = key := by simpa using List.find?_some he
            rw [Option.bind_some, hv]
            exact fits w.db entry.2 a (same ▸ stored) hv

/-- A change of the cache that takes out or puts in keys of the tenant only. -/
theorem within_cache {p : Svc Unit} {f : List (String × Cached) → List (String × Cached)}
    (runs : ∀ w, p.runs w = (.ok (), { w with cache := f w.cache }))
    (inside : ∀ cache, (f (cache.filter fun e => CacheKeys.ofTenant A e.1)).filter
      (fun e => CacheKeys.ofTenant A e.1) = (f cache).filter fun e => CacheKeys.ofTenant A e.1)
    (outside : ∀ cache, (f cache).filter (fun e => !CacheKeys.ofTenant A e.1) =
      cache.filter fun e => !CacheKeys.ofTenant A e.1)
    (fits : ∀ w : World, w.Sound → P.holds w.db → ∀ e ∈ f w.cache, e.2.Fits w.db e.1) :
    Within A P p fun _ => .none := by
  refine within_run (fun w _ _ _ => ?_) fun w sound _ hp => ?_
  · rw [runs, runs]
    exact ⟨rfl, by simp [World.restrict, inside]⟩
  · rw [runs]
    exact ⟨⟨congrArg (Prod.mk _) (outside w.cache), .refl w.db⟩,
      { sound with cache := fits w sound hp }, fun _ _ => trivial⟩

theorem within_set {key : String} {value : Cached} (own : CacheKeys.ofTenant A key = true)
    (fits : ∀ db, P.holds db → value.Fits db key) :
    Within A P (CacheService.set key value) fun _ => .none := by
  refine within_cache (f := fun cache => (key, value) :: cache.filter (·.1 != key))
    (runs_set key value) (fun cache => ?_) (fun cache => ?_) fun w sound hp e he => ?_
  · simp only [List.filter_cons, own, if_true, List.filter_filter]
    congr 1
    refine List.filter_congr fun e _ => ?_
    cases CacheKeys.ofTenant A e.1 <;> simp
  · simp only [List.filter_cons, own, List.filter_filter]
    refine List.filter_congr fun e _ => ?_
    by_cases same : e.1 = key
    · simp [same, own]
    · simp [same]
  · rcases List.mem_cons.mp he with rfl | old
    · exact fits w.db hp
    · exact sound.cache e (List.mem_of_mem_filter old)

theorem within_deleteKeys {p : Svc Unit} {q : String → Bool}
    (runs : ∀ w, p.runs w = (.ok (), w.deleteKeys q))
    (own : ∀ key, q key = true → CacheKeys.ofTenant A key = true) :
    Within A P p fun _ => .none := by
  refine within_cache (f := fun cache => cache.filter fun e => !q e.1) runs
    (fun cache => ?_) (fun cache => ?_)
    fun w sound _ e he => sound.cache e (List.mem_of_mem_filter he)
  · simp only [List.filter_filter]
    refine List.filter_congr fun e _ => ?_
    cases CacheKeys.ofTenant A e.1 <;> simp
  · simp only [List.filter_filter]
    refine List.filter_congr fun e _ => ?_
    cases hq : q e.1 with
    | true => simp [own _ hq]
    | false => simp

theorem within_del {key : String} (own : CacheKeys.ofTenant A key = true) :
    Within A P (CacheService.del key) fun _ => .none :=
  within_deleteKeys (runs_del key) fun k hk => by
    have same : k = key := by simpa using hk
    rw [same, own]

theorem within_delByPattern {pattern rest : String}
    (eq : pattern = CacheKeys.tenantPrefix A ++ rest) :
    Within A P (CacheService.delByPattern pattern) fun _ => .none :=
  within_deleteKeys (runs_delByPattern pattern) fun _ => CacheKeys.ofTenant_of_glob eq

end Svc

end Tenantory
