import Tenantory.Admission
import Tenantory.CacheCoherence
import Tenantory.RecallingCalls

/-! Reads through the cache beside whatever else is going on. An answer may be stale, but it is
never made up: the tables could have given it at a state that the application has come
through. -/

namespace Tenantory

open Svc UuidText

/-! ## Functions that read through the cache -/

def AuthService.profileView (tenantId id : String) : CacheAside User where
  key := CacheKeys.user tenantId id
  cached? := Cached.user?
  wrap := .user
  fresh _ w := orMissing (.notFound "There is no user with this id") (readById tenantId id w)
  ranks := false

inductive CachedRead
  | category (id : String)
  | categories (query : CategoryQueryDto)
  | tree
  | product (id : String)
  | products (query : ProductQueryDto)
  | profile (id : String)

namespace CachedRead

def Object : CachedRead → Type
  | category _ => CategoryEntity
  | categories _ => PaginatedResponse CategoryEntity
  | tree => List CategoryNode
  | product _ => ProductEntity
  | products _ => PaginatedResponse ProductEntity
  | profile _ => User

def program (platform : Platform) (tenantId : String) : (read : CachedRead) → Svc read.Object
  | category id => CategoryService.findOne tenantId id
  | categories query => CategoryService.findAll platform tenantId query
  | tree => CategoryService.findTree platform tenantId
  | product id => ProductService.findOne tenantId id
  | products query => ProductService.findAll platform tenantId query
  | profile id => AuthService.showUserInfo tenantId id

def view (platform : Platform) (tenantId : String) : (read : CachedRead) → CacheAside read.Object
  | category id => CategoryService.oneView tenantId id
  | categories query => CategoryService.pageView platform tenantId query
  | tree => CategoryService.treeView platform tenantId
  | product id => ProductService.oneView tenantId id
  | products query => ProductService.pageView platform tenantId query
  | profile id => AuthService.profileView tenantId id

end CachedRead

/-- A read gives the object for the key, from these tables. -/
inductive Given (platform : Platform) (asked : CachedRead → Prop) (w : World) :
    String → Cached → Prop
  | read {read : CachedRead} {tenantId : String} {ties : Uuid → ℕ} {a : read.Object} :
      asked read → (read.view platform tenantId).fresh ties w = .ok a →
      Given platform asked w (read.view platform tenantId).key
        ((read.view platform tenantId).wrap a)

/-- What is new in the cache has been given by one of the states. -/
def Fills (platform : Platform) (asked : CachedRead → Prop) (seen : Set World) (w w' : World) :
    Prop :=
  ∀ entry ∈ w'.cache, entry ∈ w.cache ∨ ∃ past ∈ seen,
    Given platform asked past entry.1 entry.2

/-- What the function reads, one of the reads that are asked for has given. -/
def CacheAside.IsGiven {α : Type} (view : CacheAside α) (platform : Platform)
    (asked : CachedRead → Prop) : Prop :=
  ∀ a past ties, view.fresh ties past = .ok a →
    Given platform asked past view.key (view.wrap a)

/-- The function can answer so at one of the states, from the cache or from the tables. -/
def CacheAside.From {α : Type} (view : CacheAside α) (seen : Set World) (a : α) : Prop :=
  ∃ past ∈ seen, view.hit past = some a ∨ ∃ ties, view.fresh ties past = .ok a

/-! ## Rules -/

section Rules

variable {α β : Type} {platform : Platform} {asked : CachedRead → Prop} {seen : Set World}
  {Q : Set World → α → Prop} {R : Set World → β → Prop}

/-- The call fills the cache from the states seen, and `Q` holds of its answer. -/
abbrev Recalling (platform : Platform) (asked : CachedRead → Prop) (seen : Set World) (p : Svc α)
    (Q : Set World → α → Prop) : Prop :=
  p.Recalls (Fills platform asked) seen Q

theorem fills_idle (seen : Set World) (w : World) : Fills platform asked seen w w :=
  fun _ mem => .inl mem

theorem fills_of_kept {w w' : World} (less : w'.cache ⊆ w.cache) :
    Fills platform asked seen w w' := fun _ mem => .inl (less mem)

theorem recalling_calm {p : Svc α} (calm : Stays World.Calm p) :
    Recalling platform asked seen p fun _ _ => True :=
  recalls_stays calm .refl fun _ _ _ calm => fills_of_kept calm.cache

theorem recalling_get (key : String) (read : Cached → Option α) :
    Recalling platform asked seen (CacheService.get key read) fun seen found =>
      ∀ a, found = some a → ∃ past ∈ seen, (past.cached key).bind read = some a := by
  refine ⟨fun w => ⟨fun _ mem => .inl mem, fun found same a hit => ?_⟩,
    fun e found same a hit => ?_⟩
  · cases same
    exact ⟨w, Set.mem_insert_of_mem _ (Set.mem_insert w seen), hit⟩
  · cases same
    cases hit

theorem recalling_listing (read : (Uuid → ℕ) → World → Except Err α) :
    Recalling platform asked seen (listing read) fun seen a =>
      ∃ past ∈ seen, ∃ ties, read ties past = .ok a :=
  ⟨fun w => ⟨fun _ mem => .inl mem, fun _ same =>
      ⟨w, Set.mem_insert_of_mem _ (Set.mem_insert w seen), w.ties 0, same⟩⟩,
    fun _ _ impossible => nomatch impossible⟩

variable {view : CacheAside α}

/-- The object that has been read is put under its key and is the answer. -/
theorem recalling_stored {a : α} (given : view.IsGiven platform asked)
    (read : ∃ past ∈ seen, ∃ ties, view.fresh ties past = .ok a) :
    Recalling platform asked seen (do
      CacheService.set view.key (view.wrap a)
      pure a) view.From := by
  obtain ⟨past, mem, ties, read⟩ := read
  have answers : ∀ seen' : Set World, seen ⊆ seen' → view.From seen' a := fun _ more =>
    ⟨past, more mem, .inr ⟨ties, read⟩⟩
  unfold Recalling Svc.Recalls
  rw [run_bind]
  refine ⟨fun w => ⟨fun entry mem' => ?_, fun b same => ?_⟩, fun e b same => ?_⟩
  · rcases List.mem_cons.mp mem' with rfl | old
    · exact .inr ⟨past, Set.mem_insert_of_mem w mem, given a past ties read⟩
    · exact .inl (List.mem_of_mem_filter old)
  · cases same
    exact answers _ fun _ mem => Set.mem_insert_of_mem _ (Set.mem_insert_of_mem w mem)
  · cases same
    exact answers _ fun _ mem => mem

/-- A row that the finder reads is put into the cache. -/
theorem recalling_found {missing : Err} {readOne : World → Except Err (Option α)}
    {f : Option α → Svc α} (fresh : ∀ ties w,
      view.fresh ties w = orMissing missing (readOne w))
    (misses : f none = throw missing)
    (finds : ∀ a, f (some a) = do
      CacheService.set view.key (view.wrap a)
      pure a)
    (given : view.IsGiven platform asked) :
    Recalling platform asked seen (query readOne >>= f) view.From := by
  refine (recalls_query fills_idle readOne).next fun seen found read => ?_
  obtain ⟨past, mem, read⟩ := read
  cases found with
  | none =>
      rw [misses]
      exact recalls_throw
  | some a =>
      rw [finds]
      refine recalling_stored given ⟨past, mem, fun _ => 0, ?_⟩
      rw [fresh]
      exact orMissing_eq_ok.mpr read

/-- What is made of the rows of a listing is put into the cache. -/
theorem recalling_listed {ρ : Type} {read : (Uuid → ℕ) → World → Except Err ρ}
    {make : ρ → α}
    (fresh : ∀ ties w rows, read ties w = .ok rows → view.fresh ties w = .ok (make rows))
    (given : view.IsGiven platform asked) :
    Recalling platform asked seen (do
      let rows ← listing read
      CacheService.set view.key (view.wrap (make rows))
      pure (make rows)) view.From := by
  refine (recalling_listing read).next fun seen rows read => ?_
  obtain ⟨past, mem, ties, read⟩ := read
  exact recalling_stored given ⟨past, mem, ties, fresh ties past rows read⟩

/-- An object that is found is the answer. -/
theorem recalling_through {p : Svc α} {f : Option α → Svc α}
    (looks : p = CacheService.get view.key view.cached? >>= f) (hits : ∀ a, f (some a) = pure a)
    (misses : ∀ seen, Recalling platform asked seen (f none) view.From) :
    Recalling platform asked seen p view.From := by
  rw [looks]
  refine (recalling_get view.key view.cached?).next fun seen found hit => ?_
  cases found with
  | some cached =>
      obtain ⟨past, mem, hit⟩ := hit cached rfl
      rw [hits]
      exact recalls_pure ⟨past, mem, .inl hit⟩
  | none => exact misses seen

end Rules

/-! ## Calls -/

section Reads

variable {platform : Platform} {asked : CachedRead → Prop} {seen : Set World}
  {tenantId : String}

theorem isGiven_of {read : CachedRead} (asks : asked read) :
    (read.view platform tenantId).IsGiven platform asked := fun _ _ _ fresh => .read asks fresh

theorem CategoryService.recalling_findOne (id : String) (asks : asked (.category id)) :
    Recalling platform asked seen (findOne tenantId id) (oneView tenantId id).From :=
  have given : (oneView tenantId id).IsGiven platform asked := isGiven_of asks
  recalling_through rfl (fun _ => rfl) fun _ =>
    recalling_found (fun _ _ => rfl) rfl (fun _ => rfl) given

theorem ProductService.recalling_findOne (id : String) (asks : asked (.product id)) :
    Recalling platform asked seen (findOne tenantId id) (oneView tenantId id).From :=
  have given : (oneView tenantId id).IsGiven platform asked := isGiven_of asks
  recalling_through rfl (fun _ => rfl) fun _ =>
    recalling_found (fun _ _ => rfl) rfl (fun _ => rfl) given

theorem AuthService.recalling_showUserInfo (id : String) (asks : asked (.profile id)) :
    Recalling platform asked seen (showUserInfo tenantId id) (profileView tenantId id).From :=
  have given : (profileView tenantId id).IsGiven platform asked := isGiven_of asks
  recalling_through rfl (fun _ => rfl) fun _ =>
    recalling_found (fun _ _ => rfl) rfl (fun _ => rfl) given

theorem CategoryService.recalling_findAll (query : CategoryQueryDto)
    (asks : asked (.categories query)) :
    Recalling platform asked seen (findAll platform tenantId query)
      (pageView platform tenantId query).From := by
  have fresh (ties : Uuid → ℕ) (w : World) (rows : List CategoryEntity × ℕ)
      (read : readPage platform tenantId query (query.page.getD 1) (query.limit.getD 10) ties w =
        .ok rows) : (pageView platform tenantId query).fresh ties w = .ok (pageOf query rows) := by
    simp only [pageView, read]
    rfl
  have given : (pageView platform tenantId query).IsGiven platform asked := isGiven_of asks
  exact recalling_through rfl (fun _ => rfl) fun _ => recalling_listed fresh given

theorem ProductService.recalling_findAll (query : ProductQueryDto)
    (asks : asked (.products query)) :
    Recalling platform asked seen (findAll platform tenantId query)
      (pageView platform tenantId query).From := by
  have fresh (ties : Uuid → ℕ) (w : World) (rows : List ProductEntity × ℕ)
      (read : readPage platform tenantId query ((query.page.getD 1 - 1) * query.limit.getD 10)
        (query.limit.getD 10) ties w = .ok rows) :
      (pageView platform tenantId query).fresh ties w = .ok (pageOf query rows) := by
    simp only [pageView, read]
    rfl
  have given : (pageView platform tenantId query).IsGiven platform asked := isGiven_of asks
  exact recalling_through rfl (fun _ => rfl) fun _ => recalling_listed fresh given

theorem CategoryService.recalling_findTree (asks : asked .tree) :
    Recalling platform asked seen (findTree platform tenantId)
      (treeView platform tenantId).From := by
  have given : (treeView platform tenantId).IsGiven platform asked := isGiven_of asks
  refine recalling_through rfl (fun _ => rfl) fun seen =>
    (recalling_listing _).next fun seen result read => ?_
  obtain ⟨past, mem, ties, read⟩ := read
  cases result with
  | nil => exact recalls_throw
  | cons entity rest =>
      have fresh : (treeView platform tenantId).fresh ties past =
          .ok (buildTree (entity :: rest)) := by
        simp only [treeView, read]
        rfl
      exact recalling_stored given ⟨past, mem, ties, fresh⟩

theorem CachedRead.recalling_program (read : CachedRead) (asks : asked read) :
    Recalling platform asked seen (read.program platform tenantId)
      (read.view platform tenantId).From := by
  cases read with
  | category id => exact CategoryService.recalling_findOne id asks
  | categories query => exact CategoryService.recalling_findAll query asks
  | tree => exact CategoryService.recalling_findTree asks
  | product id => exact ProductService.recalling_findOne id asks
  | products query => exact ProductService.recalling_findAll query asks
  | profile id => exact AuthService.recalling_showUserInfo id asks

end Reads

section Audited

variable {platform : Platform} {bcrypt : Bcrypt} {asked : CachedRead → Prop} {seen : Set World}
  {tenantId : String} {context : Option AuditContextData}

theorem recalling_rules :
    CallRules fun _ p => ∀ seen, p.Recalls (Fills platform asked) (fun _ _ => True) seen :=
  recalls_rules fun _ _ _ spares => fills_of_kept spares.cache

theorem AuditedOp.recalling_program (op : AuditedOp)
    (asks : ∀ id, asked (.category id) ∧ asked (.product id)) :
    Recalling platform asked seen (op.program platform bcrypt context tenantId)
      fun _ _ => True :=
  recalls_of_run <| op.program_by recalling_rules
    (fun id => Svc.Recalls.run fun _ => CategoryService.recalling_findOne id (asks id).1)
    (fun id => Svc.Recalls.run fun _ => ProductService.recalling_findOne id (asks id).2)
    (fun dto => Svc.Recalls.run fun _ =>
      recalling_calm (TenantUserManagementService.inviteUser_calm dto))
    (fun userId dto => Svc.Recalls.run fun _ =>
      recalling_calm (TenantUserManagementService.updateUserRole_calm userId dto))

theorem StockCall.recalling_program (call : StockCall) :
    Recalling platform asked seen (call.program context) fun _ _ => True :=
  recalls_of_run (recalling_rules.sparing (call.program_sparing context))

end Audited

/-! ## Calls in flight -/

/-- A read through the cache, a write that is audited, a call of the inventory, or any other that
puts nothing into the cache. -/
inductive CachingCall
  | read (what : CachedRead) (tenantId : String)
  | audited (op : AuditedOp) (context : Option AuditContextData) (tenantId : String)
  | stock (call : StockCall) (context : Option AuditContextData)
  | other (p : Svc Unit) (quiet : Stays (fun w w' => w'.cache ⊆ w.cache) p)

/-- What a read answers, as the cache would hold it. -/
def CachingCall.program (platform : Platform) (bcrypt : Bcrypt) :
    CachingCall → Svc (Option Cached)
  | .read what tenantId =>
      (fun a => some ((what.view platform tenantId).wrap a)) <$> what.program platform tenantId
  | .audited op context tenantId =>
      (fun _ => none) <$> op.program platform bcrypt context tenantId
  | .stock call context => (fun _ => none) <$> call.program context
  | .other p _ => (fun _ => none) <$> p

/-- Calls that run beside each other. -/
def cachingPool {ι : Type} (platform : Platform) (bcrypt : Bcrypt) (calls : ι → CachingCall)
    (w : World) : Pool World Err Label ι (Except Err (Option Cached)) where
  state := w
  progs i := ((calls i).program platform bcrypt).run

/-- The list calls among these ask for the query; everything else may be asked for. -/
def AskedBy {ι : Type} (calls : ι → CachingCall) : CachedRead → Prop
  | .categories query => ∃ i tenantId, calls i = .read (.categories query) tenantId
  | .products query => ∃ i tenantId, calls i = .read (.products query) tenantId
  | _ => True

section Pool

variable {ι : Type} {platform : Platform} {bcrypt : Bcrypt} {calls : ι → CachingCall}

theorem askedBy_read {i : ι} {read : CachedRead} {tenantId : String}
    (called : calls i = .read read tenantId) : AskedBy calls read := by
  cases read with
  | categories query => exact ⟨i, tenantId, called⟩
  | products query => exact ⟨i, tenantId, called⟩
  | _ => trivial

/-- What a call answers comes from the states that it has seen. -/
def CachingCall.Tells (platform : Platform) (call : CachingCall) (seen : Set World)
    (answer : Option Cached) : Prop :=
  ∀ read tenantId, call = .read read tenantId →
    ∃ a, answer = some ((read.view platform tenantId).wrap a) ∧
      (read.view platform tenantId).From seen a

theorem recalling_call {seen : Set World} (i : ι) :
    Recalling platform (AskedBy calls) seen ((calls i).program platform bcrypt)
      ((calls i).Tells platform) := by
  cases called : calls i with
  | read what tenantId =>
      refine (what.recalling_program (askedBy_read called)).map fun seen a told => ?_
      intro what' tenantId' same
      cases same
      exact ⟨a, rfl, told⟩
  | audited op context tenantId =>
      refine Svc.Recalls.map (op.recalling_program fun _ => ⟨trivial, trivial⟩) fun _ _ _ => ?_
      intro what' tenantId' same
      cases same
  | stock call context =>
      refine Svc.Recalls.map call.recalling_program fun _ _ _ => ?_
      intro what' tenantId' same
      cases same
  | other p quiet =>
      have kept : Recalling platform (AskedBy calls) seen p fun _ _ => True :=
        recalls_stays quiet (fun _ _ mem => mem) fun _ _ _ => fills_of_kept
      refine Svc.Recalls.map kept fun _ _ _ => ?_
      intro what' tenantId' same
      cases same

/-- Every entry is what one of these states has given, in a cache that was empty. -/
def World.Remembers (platform : Platform) (asked : CachedRead → Prop) (past : Set World)
    (w : World) : Prop :=
  ∀ entry ∈ w.cache, ∃ v ∈ past, Given platform asked v entry.1 entry.2

variable [DecidableEq ι] {w : World} {past : Set World}
  {d : Pool World Err Label ι (Except Err (Option Cached))}

theorem recalled_pool (cold : w.cache = [])
    (through : Pool.Through callFault (fun _ _ _ => True) (cachingPool platform bcrypt calls w)
      past d) :
    d.state.Remembers platform (AskedBy calls) past ∧ ∀ i, ∃ seen ⊆ past,
      (d.progs i).Recalls (Fills platform (AskedBy calls))
        (fun seen answer => ∀ a, answer = .ok a → (calls i).Tells platform seen a) seen := by
  have recalls : ∀ i, ((cachingPool platform bcrypt calls w).progs i).Recalls
      (Fills platform (AskedBy calls))
      (fun seen answer => ∀ a, answer = .ok a → (calls i).Tells platform seen a) ∅ :=
    fun i => recalling_call i
  refine Pool.recalled_through (fun seen past v v' less _ fills kept entry mem => ?_)
    (fun entry mem => ?_) recalls through
  · have further : past ⊆ insert v' past := Set.subset_insert _ _
    rcases fills entry mem with old | ⟨u, before, given⟩
    · obtain ⟨u, before, given⟩ := kept entry old
      exact ⟨u, further before, given⟩
    · exact ⟨u, further (less before), given⟩
  · have mem : entry ∈ w.cache := mem
    rw [cold] at mem
    cases mem

end Pool

/-! ## Keys -/

section Keys

variable {platform : Platform} {asked : CachedRead → Prop} {tenantId tenantId' : String}
  {tenant : Uuid} {past : World} {ties : Uuid → ℕ}

theorem CacheKeys.user_texts {id id' : String} {i : Uuid} (ht : uuidIn tenantId = some tenant)
    (hi : uuidIn id = some i) (h : user tenantId id = user tenantId' id') :
    tenantId = tenantId' ∧ id = id' := by
  have parts (tenantId id : String) : (user tenantId id).toList =
      't' :: ':' :: (tenantId.toList ++ ':' :: ("user".toList ++ ':' :: id.toList)) := by
    simp [user]
  have lists := congrArg String.toList h
  rw [parts, parts] at lists
  exact two_parts_inj (no_colon ht) (no_colon hi) lists

/-- What has been put under the key of a read, and is of its type, a read of that kind gives. -/
theorem CachedRead.given_hit
    (digests : Digests platform (fun q => asked (.categories q)) fun q => asked (.products q))
    {read : CachedRead} (asks : asked read) (named : uuidIn tenantId = some tenant)
    {value : Cached} {a : read.Object}
    (given : Given platform asked past (read.view platform tenantId).key value)
    (typed : (read.view platform tenantId).cached? value = some a) :
    ∃ ties, (read.view platform tenantId).fresh ties past = .ok a := by
  generalize held : (read.view platform tenantId).key = key at given
  obtain @⟨read', tenantId', ties, b, asks', fresh⟩ := given
  cases read <;> cases read' <;> cases typed
  case category.category id id' =>
    obtain ⟨row, readable, -⟩ := CategoryService.readOne_ok.mp (orMissing_eq_ok.mp fresh)
    obtain ⟨rfl, rfl⟩ := CacheKeys.category_texts readable.owned readable.named held.symm
    exact ⟨ties, fresh⟩
  case categories.categories query query' =>
    obtain ⟨owner, named'⟩ := CategoryService.page_tenant fresh
    obtain ⟨rfl, digest⟩ := CacheKeys.categoriesList_texts named' named held.symm
    obtain rfl := digests.categories _ _ asks' asks digest
    exact ⟨ties, fresh⟩
  case tree.tree =>
    obtain ⟨owner, named'⟩ := CategoryService.tree_tenant fresh
    obtain rfl := CacheKeys.categoriesTree_texts named' named held.symm
    exact ⟨ties, fresh⟩
  case product.product id id' =>
    obtain ⟨row, readable, -⟩ := ProductService.readOne_ok.mp (orMissing_eq_ok.mp fresh)
    obtain ⟨rfl, rfl⟩ := CacheKeys.product_texts readable.owned readable.named held.symm
    exact ⟨ties, fresh⟩
  case products.products query query' =>
    obtain ⟨owner, named'⟩ := ProductService.page_tenant fresh
    obtain ⟨rfl, digest⟩ := CacheKeys.productsList_texts named' named held.symm
    obtain rfl := digests.products _ _ asks' asks digest
    exact ⟨ties, fresh⟩
  case profile.profile id id' =>
    obtain ⟨-, named', owned, -⟩ := AuthService.readById_eq_some.mp (orMissing_eq_ok.mp fresh)
    obtain ⟨rfl, rfl⟩ := CacheKeys.user_texts owned named' held.symm
    exact ⟨ties, fresh⟩

end Keys

/-- Beside any other calls, failing wherever they may, and from an empty cache, a read that is
answered is answered as the tables could have answered it at a state that has been. -/
theorem cached_answers_are_past {ι : Type} [DecidableEq ι] {platform : Platform} {bcrypt : Bcrypt}
    {calls : ι → CachingCall} {w : World} {past : Set World}
    {d : Pool World Err Label ι (Except Err (Option Cached))} (cold : w.cache = [])
    (digests : Digests platform (fun q => AskedBy calls (.categories q))
      fun q => AskedBy calls (.products q))
    (through : Pool.Through callFault (fun _ _ _ => True) (cachingPool platform bcrypt calls w)
      past d)
    {i : ι} {read : CachedRead} {tenantId : String} {tenant : Uuid} {answer : Option Cached}
    (called : calls i = .read read tenantId) (named : uuidIn tenantId = some tenant)
    (answered : d.progs i = .ret (.ok answer)) :
    ∃ a, answer = some ((read.view platform tenantId).wrap a) ∧
      ∃ v ∈ past, (read.view platform tenantId).Gives v.db a := by
  obtain ⟨seen, less, tells⟩ := (recalled_pool cold through).2 i
  rw [answered] at tells
  obtain ⟨a, same, v, mem, source⟩ := tells answer rfl read tenantId called
  refine ⟨a, same, ?_⟩
  rcases source with hit | ⟨ties, fresh⟩
  · obtain ⟨value, held, typed⟩ := Option.bind_eq_some_iff.mp hit
    obtain ⟨before, earlier, e, came, rfl⟩ := through.before (less mem)
    have remembered : e.state.CachedAll fun key value =>
        ∃ u ∈ before, Given platform (AskedBy calls) u key value := (recalled_pool cold came).1
    obtain ⟨u, been, given⟩ := remembered.of_cached held
    obtain ⟨ties, fresh⟩ := read.given_hit digests (askedBy_read called) named given typed
    exact ⟨u, earlier been, ties, u, rfl, fresh⟩
  · exact ⟨v, less mem, ties, v, rfl, fresh⟩

namespace SampleShop

def findProduct : CachedRead := .product (uuidOut productId)

/-- A read of the product, an update that gives it another name, and a second read. -/
def renameBetween : Fin 3 → CachingCall
  | 1 => .audited (.updateProduct (uuidOut productId)
      ⟨.value "Tee", .undefined, .undefined, .undefined, .undefined⟩) context (uuidOut tenantId)
  | _ => .read findProduct (uuidOut tenantId)

/-- The name that the second read answers with, and the name in the table. -/
def secondAnswer (c : Pool World Err Label (Fin 3) (Except Err (Option Cached))) :
    Option String × List String :=
  (match Pool.result? (c.progs (Fin.last 2)) with
    | some (.ok (some (.product entity))) => some entity.name
    | _ => none,
  c.state.db.products.rows.map (·.name))

/-- The first read has its object before the update saves, and stores it afterwards. -/
theorem renamed_before_stored :
    ((cachingPool plainText hashing renameBetween (world unstocked)).schedule (fun _ _ _ => true)
      [0, 0, 1, 1, 1, 1, 1, 1, 1, 1, 0, 2]).map secondAnswer = some (some "Shirt", ["Tee"]) := by
  decide

theorem renameBetween_digests : Digests plainText
    (fun query => AskedBy renameBetween (.categories query))
    fun query => AskedBy renameBetween (.products query) := by
  have asksNone (i : Fin 3) (read : CachedRead) (t : String)
      (called : renameBetween i = .read read t) : read = findProduct := by
    match i with
    | 0 => cases called; rfl
    | 1 => cases called
    | 2 => cases called; rfl
  constructor
  · rintro q q' ⟨i, t, called⟩
    cases asksNone i _ t called
  · rintro q q' ⟨i, t, called⟩
    cases asksNone i _ t called

end SampleShop

open SampleShop

/-- The second read answers with the old name, which has been in the table. -/
theorem cached_answers_are_past_shirt : ∃ past d entity,
    Pool.Through callFault (fun _ _ _ => True)
      (cachingPool plainText hashing renameBetween (world unstocked)) past d ∧
    d.progs 2 = .ret (.ok (some (.product entity))) ∧ entity.name = "Shirt" ∧
    d.state.db.products.rows.map (·.name) = ["Tee"] ∧
    ∃ v ∈ past,
      (ProductService.oneView (uuidOut tenantId) (uuidOut productId)).Gives v.db entity := by
  obtain ⟨d, run, seen⟩ := Pool.exists_of_schedule renamed_before_stored
  have run : Pool.Reach callFault (fun _ _ _ => True) _ d := run.mono fun _ _ _ _ => trivial
  obtain ⟨past, through⟩ := run.through
  obtain ⟨answered, renamed⟩ := Prod.mk.inj seen
  split at answered
  · rename_i entity held
    have returned : d.progs 2 = .ret (.ok (some (.product entity))) := Pool.result?_eq_some.mp held
    have past_read := cached_answers_are_past rfl renameBetween_digests through
      (show renameBetween 2 = .read findProduct (uuidOut tenantId) from rfl)
      (show uuidIn (uuidOut tenantId) = some tenantId by decide) returned
    obtain ⟨a, same, been⟩ := past_read
    cases same
    exact ⟨past, d, entity, through, returned, Option.some.inj answered, renamed, been⟩
  · cases answered

end Tenantory
