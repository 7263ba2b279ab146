import Tenantory.ConfinedCategories
import Tenantory.ProductWrites

/-! The services of products and variants are confined to the tenant that they are called
for. A product is written with the id of a category that was found under the tenant. -/

namespace Tenantory

open UuidText Stored Owned Svc

section Restricted

variable {A : Uuid} {db : Database}

theorem liveProduct_restrict {id : Uuid} (own : db.products.Owns A id) :
    (db.restrict A).liveProduct id = db.liveProduct id := by
  refine Table.any_only (fun r mem h => ?_) fun _ _ _ => rfl
  have named : r.id = id := beq_iff_eq.mp (Bool.and_eq_true_iff.mp h).1
  subst named
  exact beq_iff_eq.mpr (Table.Owns.owner own mem)

theorem owns_of_variant (isolated : db.Isolated) {id : Uuid} (own : db.products.Owns A id)
    {v : ProductVariant} (stored : v ∈ db.variants) (variant : v.productId = id) :
    v.tenantId = A := by
  obtain ⟨product, there, named, owner⟩ := own
  have refers := isolated.product v stored
  rw [variant, ← named] at refers
  exact (Table.Owns.owner refers there).symm.trans owner

theorem liveVariants_restrict (isolated : db.Isolated) {id : Uuid}
    (own : db.products.Owns A id) : (db.restrict A).liveVariants id = db.liveVariants id := by
  refine Table.select_only (fun r mem h => ?_) fun _ _ _ => rfl
  have variant : r.productId = id := beq_iff_eq.mp (Bool.and_eq_true_iff.mp h).1
  exact beq_iff_eq.mpr (owns_of_variant isolated own mem variant)

theorem owns_of_liveVariant (isolated : db.Isolated) {id : Uuid} (own : db.products.Owns A id)
    {v : ProductVariant} (mem : v ∈ db.liveVariants id) : db.variants.Owns A v.id := by
  obtain ⟨stored, h⟩ := List.mem_filter.mp mem
  have variant : v.productId = id := beq_iff_eq.mp (Bool.and_eq_true_iff.mp h).1
  exact ⟨v, stored, rfl, owns_of_variant isolated own stored variant⟩

namespace ProductEntity

variable {p : Product}

theorem related_restrict (isolated : db.Isolated) (mem : p ∈ db.products)
    (owner : p.tenantId = A) :
    related (db.restrict A) p = related db p := by
  have own : db.products.Owns A p.id := ⟨p, mem, rfl, owner⟩
  have category : (db.restrict A).liveCategory? p.categoryId = db.liveCategory? p.categoryId :=
    liveCategory?_restrict (owner ▸ isolated.category p mem)
  unfold related
  rw [category, liveVariants_restrict isolated own]

theorem related_owned (isolated : db.Isolated) (mem : p ∈ db.products) (owner : p.tenantId = A) :
    (related db p).OwnedBy A db := by
  have own : db.products.Owns A p.id := ⟨p, mem, rfl, owner⟩
  refine ⟨own, owner, fun c hc => ?_, fun vs hvs v hv => ?_⟩
  · have found : (db.liveCategory? p.categoryId).map
      (fun c => CategoryReference.loaded c.columns) =
        some c := Option.some.inj hc
    obtain ⟨row, read, rfl⟩ := Option.map_eq_some_iff.mp found
    have same : row.id = p.categoryId := by
      unfold Database.liveCategory? at read
      have holds := Table.holds_of_find? read
      exact beq_iff_eq.mp (Bool.and_eq_true_iff.mp holds).1
    refine ⟨row.id, rfl, ?_⟩
    rw [same, ← owner]
    exact isolated.category p mem
  · obtain rfl := Option.some.inj hvs
    exact owns_of_liveVariant isolated own hv

end ProductEntity

end Restricted

/-! ## Products -/

namespace ProductService

section Reads

variable {A : Uuid} {w : World}

theorem readOne_restrict (isolated : w.db.Isolated) (id : String) :
    readOne (uuidOut A) id (w.restrict A) = readOne (uuidOut A) id w := by
  unfold readOne
  rw [uuidParam_uuidOut]
  cases uuidParam id with
  | error e => rfl
  | ok id =>
      have found : ((w.restrict A).db.products.find? fun p => p.id == id && p.tenantId == A &&
            (w.restrict A).db.liveTenant A && p.live) =
          w.db.products.find? fun p => p.id == id && p.tenantId == A && w.db.liveTenant A &&
            p.live := by
        refine Table.find?_ofOwner (fun r h => ?_) fun r _ _ => ?_
        · simp only [Bool.and_eq_true, beq_iff_eq] at h
          exact h.1.1.2
        · exact congrArg (fun live => _ && live && r.live) (liveTenant_restrict A w.db)
      change Except.ok _ = Except.ok _
      rw [found]
      cases read : w.db.products.find? _ with
      | none => rfl
      | some p =>
          have holds := Table.holds_of_find? read
          simp only [Bool.and_eq_true, beq_iff_eq] at holds
          exact congrArg (fun entity => Except.ok (some entity))
            (ProductEntity.related_restrict isolated (Table.mem_of_find? read) holds.1.1.2)

theorem readOne_owned (isolated : w.db.Isolated) {id : String} {entity : ProductEntity}
    (read : readOne (uuidOut A) id w = .ok (some entity)) : entity.OwnedBy A w.db := by
  unfold readOne at read
  rw [uuidParam_uuidOut] at read
  obtain ⟨u, -, answered⟩ := bind_eq_ok.mp read
  obtain ⟨p, found, rfl⟩ := Option.map_eq_some_iff.mp (Except.ok.inj answered)
  have holds := Table.holds_of_find? found
  simp only [Bool.and_eq_true, beq_iff_eq] at holds
  exact ProductEntity.related_owned isolated (Table.mem_of_find? found) holds.1.1.2

theorem skuExists_restrict (skuPrefix : String) :
    skuExists (uuidOut A) skuPrefix (w.restrict A) = skuExists (uuidOut A) skuPrefix w := by
  unfold skuExists
  rw [uuidParam_uuidOut]
  refine congrArg Except.ok (Table.any_ofOwner (fun r h => ?_) fun _ _ _ => rfl)
  simp only [Bool.and_eq_true, beq_iff_eq] at h
  exact h.1.1

theorem countVariants_restrict {product : Uuid} (own : w.db.products.Owns A product) :
    countVariants (uuidOut A) product (w.restrict A) = countVariants (uuidOut A) product w := by
  unfold countVariants
  rw [uuidParam_uuidOut]
  have rows : ((w.restrict A).db.variants.select fun v => v.productId == product &&
        (w.restrict A).db.liveProduct product && v.tenantId == A &&
        (w.restrict A).db.liveTenant A && v.live) =
      w.db.variants.select fun v => v.productId == product && w.db.liveProduct product &&
        v.tenantId == A && w.db.liveTenant A && v.live := by
    refine Table.select_ofOwner (fun r h => ?_) fun r _ _ => ?_
    · simp only [Bool.and_eq_true, beq_iff_eq] at h
      exact h.1.1.2
    · have live : (w.restrict A).db.liveProduct product = w.db.liveProduct product :=
        liveProduct_restrict own
      have tenant : (w.restrict A).db.liveTenant A = w.db.liveTenant A := liveTenant_restrict A w.db
      rw [live, tenant]
  change Except.ok _ = Except.ok _
  rw [rows]

theorem readPage_restrict (platform : Platform) (query : ProductQueryDto) (skip limit : ℕ)
    (ties : Uuid → ℕ) :
    readPage platform (uuidOut A) query skip limit ties (w.restrict A) =
      readPage platform (uuidOut A) query skip limit ties w := by
  have rows (category : Option Uuid) : ((w.restrict A).db.products.select fun p =>
        p.tenantId == A && p.live &&
          (query.search.all fun search =>
            search == "" || platform.ilike ("%" ++ search ++ "%") p.name) &&
          (category.all fun category => p.categoryId == category) &&
          query.isActive.all fun isActive => p.isActive == (isActive == "true")) =
      w.db.products.select fun p =>
        p.tenantId == A && p.live &&
          (query.search.all fun search =>
            search == "" || platform.ilike ("%" ++ search ++ "%") p.name) &&
          (category.all fun category => p.categoryId == category) &&
          query.isActive.all fun isActive => p.isActive == (isActive == "true") := by
    refine Table.select_ofOwner (fun r h => ?_) fun _ _ _ => rfl
    simp only [Bool.and_eq_true, beq_iff_eq] at h
    exact h.1.1.1.1
  unfold readPage
  rw [uuidParam_uuidOut]
  simp only [bind_ok, rows]

end Reads

/-! ### Writes -/

section Writes

variable {A : Uuid} {w : World} {draft : Draft} {entity : ProductEntity}

theorem statement_insertProduct (fresh : w.Fresh) (dto : CreateProductDto)
    (own : ∀ category, uuidIn dto.categoryId = some category →
      w.db.categories.Owns A category) :
    Statement A w (insert (uuidOut A) dto w) (insert (uuidOut A) dto (w.restrict A)) := by
  unfold insert
  rw [uuidParam_uuidOut]
  cases named : uuidParam dto.categoryId with
  | error e => exact statement_error
  | ok category =>
      cases required (dto.isActive.assign (some true)) with
      | error e => exact statement_error
      | ok isActive =>
          refine Statement.map ?_ fun row : Product =>
            { ProductEntity.plain row with category := some (some (.named dto.categoryId)) }
          refine statement_insert fresh.next (fun _ _ => rfl) (fun _ _ => rfl) fun id now => ?_
          exact own category (uuidParam_eq_ok.mp named)

/-- The variants of a saved product are rows of its tenant, as it is itself. -/
theorem change_saveVariants {u : World} (isolated : w.db.Isolated) (own : entity.OwnedBy A w.db)
    (since : World.Written A w u) :
    Change A u (saveVariants entity w.db u)
      (saveVariants entity (w.restrict A).db (u.restrict A)) := by
  have stored : (w.restrict A).db.liveVariants entity.id = w.db.liveVariants entity.id :=
    liveVariants_restrict isolated own.id
  unfold saveVariants
  cases listed : entity.variants with
  | none => exact change_pure
  | some variants =>
      dsimp only
      rw [stored]
      by_cases none_removed :
          ((w.db.liveVariants entity.id).filter fun v => variants.all (·.id != v.id)).isEmpty
      · simp only [none_removed, if_true]
        refine change_foldlM fun v later c mem => ?_
        have ext := since.grown.extend.trans later.grown.extend
        have child := own.variants _ listed c (List.mem_of_mem_filter mem)
        refine change_update (rewrites_of_owns (ext.variants _ _ child) fun r _ same owner => ?_)
        refine ⟨same, owner, ?_⟩
        change v.db.products.Owns r.tenantId entity.id
        rw [show r.tenantId = A from owner]
        exact ext.products _ _ own.id
      · simp only [none_removed]
        exact ⟨rfl, fun _ h => nomatch h⟩

/-- The category of a written product is one of its tenant. -/
theorem columns_owned {stored : Uuid} {row : Product} (own : draft.entity.OwnedBy A w.db)
    (kept : w.db.categories.Owns A stored) (h : columns draft (.ok stored) = .ok row) :
    row.id = draft.entity.id ∧ row.tenantId = A ∧ w.db.categories.Owns A row.categoryId := by
  obtain ⟨name, isActive, category, -, -, key, rfl⟩ := columns_ok.mp h
  refine ⟨rfl, own.tenant, ?_⟩
  change w.db.categories.Owns A category
  unfold foreignKey at key
  cases given : draft.entity.category with
  | none =>
      rw [given] at key
      cases key
      exact kept
  | some reference =>
      rw [given] at key
      cases reference with
      | none => cases key
      | some reference =>
          obtain ⟨u, names, owned⟩ := own.category reference given
          cases names.symm.trans key
          exact owned

theorem statement_saveLoaded (isolated : w.db.Isolated) (own : draft.entity.OwnedBy A w.db) :
    Statement A w (saveLoaded draft w.db w)
      (saveLoaded draft (w.restrict A).db (w.restrict A)) := by
  obtain ⟨stored, found, mem, same, owner⟩ := rowById_of_owns (ρ := Product) own.id
  have again : (w.restrict A).db.rowById Product draft.entity.id = some stored :=
    (rowById_restrict own.id).trans found
  have clock : (w.restrict A).clock = w.clock := rfl
  unfold saveLoaded
  simp only [found, again, clock]
  cases made : overwrite draft w.clock stored with
  | error e => exact statement_error
  | ok row =>
      refine Change.bind (change_update (rewrites_of_owns own.id fun r hr named _ => ?_))
        fun u first => (change_saveVariants isolated own first).bind fun v _ => statement_pure
      obtain rfl : r = stored := Table.eq_of_id hr mem (named.trans same.symm)
      obtain ⟨written, stamp, columns, rfl⟩ := overwrite_ok made
      have kept := isolated.category r mem
      rw [show r.tenantId = A from owner] at kept
      obtain ⟨id, tenant, category⟩ := columns_owned own kept columns
      rw [merge_self]
      refine ⟨id, tenant, ?_⟩
      change w.db.categories.Owns written.tenantId written.categoryId
      rw [tenant]
      exact category

theorem statement_softRemoveLoaded (isolated : w.db.Isolated) (own : entity.OwnedBy A w.db) :
    Statement A w (softRemoveLoaded entity w.db w)
      (softRemoveLoaded entity (w.restrict A).db (w.restrict A)) := by
  unfold softRemoveLoaded
  refine (change_saveVariants isolated own (.refl A w)).bind fun u first => ?_
  refine Change.bind (change_update (rewrites_of_owns
    (first.grown.extend.products _ _ own.id) fun r mem same owner => ?_)) fun v _ =>
      statement_pure
  exact ⟨same, owner, (first.grown.isolated isolated).category r mem⟩

end Writes

/-! ### Calls -/

section Calls

variable {A : Uuid} {P : Fact} {platform : Platform} {context : Option AuditContextData}

theorem within_assertSkuUniqueness (skuPrefix : String) :
    Svc.Within A P (assertSkuUniqueness skuPrefix (uuidOut A)) fun _ => .none := by
  refine (within_query (Q := fun _ => .none) fun w _ _ =>
    ⟨skuExists_restrict skuPrefix, fun _ _ => trivial⟩).bind fun exist => ?_
  exact within_ite (fun _ => within_throw) fun _ => within_pure fun _ _ => trivial

theorem within_findOne (id : String) :
    Svc.Within A P (findOne (uuidOut A) id) (.productEntity A) := by
  have own := CacheKeys.ofTenant_of_append (CacheKeys.product_eq A id)
  refine (within_get (Q := Fact.productEntity A) own fun db value e fits read => ?_).bind
    fun found => ?_
  · cases value with
    | product entity =>
        cases read
        exact fits A id rfl
    | _ => cases read
  · cases found with
    | some cached => exact within_pure fun db known => known.2
    | none =>
        refine (within_query (Q := Fact.found (Fact.productEntity A)) fun w sound _ =>
          ⟨readOne_restrict sound.isolated id, fun found read => ?_⟩).bind fun found => ?_
        · cases found with
          | none => trivial
          | some entity => exact readOne_owned sound.isolated read
        · cases found with
          | none => exact within_throw
          | some product =>
              refine Within.bind (within_set own ?_) fun _ => ?_
              · intro db known B other same
                obtain rfl := CacheKeys.product_inj same
                exact known.2
              · exact within_pure fun db known => known.1.2

theorem within_findAll (query : ProductQueryDto) :
    Svc.Within A P (findAll platform (uuidOut A) query) fun _ => .none := by
  have own := CacheKeys.ofTenant_of_append (CacheKeys.productsList_eq platform A query.toJson)
  refine (within_get (Q := fun _ => .none) own fun _ _ _ _ _ => trivial).bind fun found => ?_
  cases found with
  | some cached => exact within_pure fun _ _ => trivial
  | none =>
      refine (within_listing fun w _ _ ties => readPage_restrict platform query _ _ ties).bind
        fun page => ?_
      exact Within.bind (within_set own fun _ _ => trivial) fun _ => within_pure fun _ _ => trivial

theorem within_create (dto : CreateProductDto) :
    Svc.Within A P (create context (uuidOut A) dto) fun _ => .none := by
  refine (CategoryService.within_findOne dto.categoryId).bind fun category => ?_
  refine (within_assertSkuUniqueness dto.skuPrefix).bind fun _ => within_translated ?_
  refine Within.bind (Q := fun _ => .none) (within_statement (fun w _ fresh known =>
    statement_insertProduct fresh dto ?_) fun _ _ _ _ _ _ => trivial) fun result => ?_
  · intro id named
    obtain ⟨⟨-, text, owned⟩, -⟩ := known
    obtain rfl : category.id = id := Option.some.inj (text.symm.trans named)
    exact owned.id
  · exact within_record.bind fun _ =>
      (within_delByPattern (CacheKeys.productsPattern_eq A)).bind fun _ =>
        within_pure fun _ _ => trivial

/-- The category that a patch names is looked up under the tenant first. -/
theorem patched_owned {db : Database} {product : ProductEntity} {dto : UpdateProductDto}
    (own : product.OwnedBy A db)
    (named : ∀ text, dto.categoryId.truthy = some text →
      ∃ u, uuidIn text = some u ∧ db.categories.Owns A u) :
    (patched dto product).entity.OwnedBy A db := by
  refine ⟨own.id, own.tenant, fun c given => ?_, own.variants⟩
  unfold patched at given
  cases chosen : dto.categoryId.truthy with
  | none =>
      rw [chosen] at given
      exact own.category c given
  | some text =>
      rw [chosen] at given
      cases given
      obtain ⟨u, read, owned⟩ := named text chosen
      exact ⟨u, uuidParam_eq_ok.mpr read, owned⟩

theorem within_update (id : String) (dto : UpdateProductDto) :
    Svc.Within A P (update context (uuidOut A) id dto) fun _ => .none := by
  have own := CacheKeys.ofTenant_of_append (CacheKeys.product_eq A id)
  refine (within_findOne id).bind fun product => within_ite (fun _ => within_throw) fun _ => ?_
  have looked : Svc.Within A (P.and (.productEntity A product))
      (dto.categoryId.truthy.mapM (CategoryService.findOne (uuidOut A))) fun _ =>
        Fact.all fun text : { text // dto.categoryId.truthy = some text } =>
          ⟨fun db => ∃ u, uuidIn text.1 = some u ∧ db.categories.Owns A u,
            fun ext h => h.imp fun _ both => ⟨both.1, ext.categories _ _ both.2⟩⟩ := by
    cases chosen : dto.categoryId.truthy with
    | none => exact within_pure fun _ _ text => nomatch text.2
    | some text =>
        refine (CategoryService.within_findOne text).map some ?_
        rintro category db known ⟨_, same⟩
        cases same
        exact ⟨category.id, known.1, known.2.id⟩
  refine looked.bind fun _ => within_translated ?_
  refine Within.bind (Q := fun _ => .none) (within_saving (fun w sound known =>
    statement_saveLoaded sound.isolated ?_) fun _ _ _ _ _ _ => trivial) fun saved => ?_
  · exact patched_owned known.1.2 fun text given => known.2 ⟨text, given⟩
  · exact within_record.bind fun _ => (within_del own).bind fun _ =>
      (within_delByPattern (CacheKeys.productsPattern_eq A)).bind fun _ =>
        within_pure fun _ _ => trivial

theorem within_remove (id : String) :
    Svc.Within A P (remove context (uuidOut A) id) fun _ => .none := by
  have own := CacheKeys.ofTenant_of_append (CacheKeys.product_eq A id)
  refine (within_findOne id).bind fun product => ?_
  refine Within.bind (Q := fun _ => .none) (within_query fun w _ known =>
    ⟨countVariants_restrict known.2.id, fun _ _ => trivial⟩) fun variantCount => ?_
  refine within_ite (fun _ => within_throw) fun _ => ?_
  refine Within.bind (Q := fun _ => .none) (within_softRemoving (fun w sound known =>
    statement_softRemoveLoaded sound.isolated known.1.2) fun _ _ _ _ _ _ => trivial) fun _ => ?_
  exact within_record.bind fun _ => (within_del own).bind fun _ =>
    within_delByPattern (CacheKeys.productsPattern_eq A)

end Calls
end ProductService

/-! ## Variants -/

/-- The product that a text names is one of the tenant. -/
def Fact.productNamed (A : Uuid) (text : String) : Fact where
  holds db := ∃ u, uuidIn text = some u ∧ db.products.Owns A u
  mono ext h := h.imp fun _ both => ⟨both.1, ext.products _ _ both.2⟩

namespace VariantService

section Reads

variable {A : Uuid} {w : World}

theorem readProduct_restrict (productId : String) :
    readProduct (uuidOut A) productId (w.restrict A) = readProduct (uuidOut A) productId w := by
  unfold readProduct
  rw [uuidParam_uuidOut]
  cases uuidParam productId with
  | error e => rfl
  | ok id =>
      refine congrArg Except.ok (Table.find?_ofOwner (fun r h => ?_) fun r _ _ => ?_)
      · simp only [Bool.and_eq_true, beq_iff_eq] at h
        exact h.1.1.2
      · exact congrArg (fun live => _ && live && r.live) (liveTenant_restrict A w.db)

theorem readProduct_owned {productId : String} {product : Product}
    (read : readProduct (uuidOut A) productId w = .ok (some product)) :
    ∃ u, uuidIn productId = some u ∧ w.db.products.Owns A u := by
  unfold readProduct at read
  rw [uuidParam_uuidOut] at read
  obtain ⟨u, text, found⟩ := bind_eq_ok.mp read
  have found := Except.ok.inj found
  have holds := Table.holds_of_find? found
  simp only [Bool.and_eq_true, beq_iff_eq] at holds
  exact ⟨u, uuidParam_eq_ok.mp text, product, Table.mem_of_find? found, holds.1.1.1,
    holds.1.1.2⟩

theorem readById_restrict (db : Database) (id : Uuid) :
    readById (db.restrict A) A id = readById db A id := by
  refine Table.find?_ofOwner (fun r h => ?_) fun r _ _ => ?_
  · simp only [Bool.and_eq_true, beq_iff_eq] at h
    exact h.1.1.2
  · exact congrArg (fun live => _ && live && _) (liveTenant_restrict A db)

theorem readById_owned {db : Database} {id : Uuid} {variant : ProductVariant}
    (read : readById db A id = some variant) : db.variants.Owns A variant.id := by
  have holds := Table.holds_of_find? read
  simp only [Bool.and_eq_true, beq_iff_eq] at holds
  exact ⟨variant, Table.mem_of_find? read, rfl, holds.1.1.2⟩

theorem readOne_restrict (isolated : w.db.Isolated) (productId variantId : String) :
    readOne (uuidOut A) productId variantId (w.restrict A) =
      readOne (uuidOut A) productId variantId w := by
  unfold readOne
  rw [uuidParam_uuidOut]
  cases uuidParam variantId with
  | error e => rfl
  | ok id =>
      cases uuidParam productId with
      | error e => rfl
      | ok product =>
          refine congrArg Except.ok (Table.find?_ofOwner (fun r h => ?_) fun r mem owner => ?_)
          · simp only [Bool.and_eq_true, beq_iff_eq] at h
            exact h.1.1.1.1.2
          · have tenant : (w.restrict A).db.liveTenant A = w.db.liveTenant A :=
              liveTenant_restrict A w.db
            by_cases variant : r.productId = product
            · have own : w.db.products.Owns A product :=
                variant ▸ (show r.tenantId = A from owner) ▸ isolated.product r mem
              have live : (w.restrict A).db.liveProduct product = w.db.liveProduct product :=
                liveProduct_restrict own
              rw [tenant, live]
            · have other : (r.productId == product) = false := beq_eq_false_iff_ne.mpr variant
              rw [other, Bool.and_false, Bool.and_false]
              rfl

theorem readOne_owned {productId variantId : String} {variant : ProductVariant}
    (read : readOne (uuidOut A) productId variantId w = .ok (some variant)) :
    w.db.variants.Owns A variant.id ∧ variant.tenantId = A := by
  unfold readOne at read
  rw [uuidParam_uuidOut] at read
  obtain ⟨u, -, read⟩ := bind_eq_ok.mp read
  obtain ⟨tenant, owner, read⟩ := bind_eq_ok.mp read
  obtain rfl := Except.ok.inj owner
  obtain ⟨product, -, found⟩ := bind_eq_ok.mp read
  have found := Except.ok.inj found
  have holds := Table.holds_of_find? found
  simp only [Bool.and_eq_true, beq_iff_eq] at holds
  exact ⟨⟨variant, Table.mem_of_find? found, rfl, holds.1.1.1.1.2⟩, holds.1.1.1.1.2⟩

theorem skuExists_restrict (sku : String) (excludeId : Option String) :
    skuExists (uuidOut A) sku excludeId (w.restrict A) = skuExists (uuidOut A) sku excludeId w := by
  unfold skuExists
  rw [uuidParam_uuidOut]
  cases excludeId.mapM uuidParam with
  | error e => rfl
  | ok exclude =>
      refine congrArg Except.ok (Table.any_ofOwner (fun r h => ?_) fun _ _ _ => rfl)
      simp only [Bool.and_eq_true, beq_iff_eq] at h
      exact h.1.1.1

theorem readPage_restrict (platform : Platform) (productId : String) (query : VariantQueryDto)
    (skip limit : ℕ) (ties : Uuid → ℕ) :
    readPage platform (uuidOut A) productId query skip limit ties (w.restrict A) =
      readPage platform (uuidOut A) productId query skip limit ties w := by
  have rows (product : Uuid) : ((w.restrict A).db.variants.select fun v =>
        v.tenantId == A && v.productId == product && v.live &&
          (query.search.all fun search =>
            search == "" || platform.ilike ("%" ++ search ++ "%") v.sku) &&
          (query.minPrice.all fun minPrice => minPrice ≤ v.price) &&
          query.maxPrice.all fun maxPrice => v.price ≤ maxPrice) =
      w.db.variants.select fun v =>
        v.tenantId == A && v.productId == product && v.live &&
          (query.search.all fun search =>
            search == "" || platform.ilike ("%" ++ search ++ "%") v.sku) &&
          (query.minPrice.all fun minPrice => minPrice ≤ v.price) &&
          query.maxPrice.all fun maxPrice => v.price ≤ maxPrice := by
    refine Table.select_ofOwner (fun r h => ?_) fun _ _ _ => rfl
    simp only [Bool.and_eq_true, beq_iff_eq] at h
    exact h.1.1.1.1.1
  unfold readPage
  rw [uuidParam_uuidOut]
  simp only [bind_ok, rows]

end Reads

/-! ### Writes -/

section Writes

variable {A : Uuid} {w : World}

theorem statement_insertVariant (fresh : w.Fresh) (productId : String) (dto : CreateVariantDto)
    (own : ∀ product, uuidIn productId = some product → w.db.products.Owns A product) :
    Statement A w (insert (uuidOut A) productId dto w)
      (insert (uuidOut A) productId dto (w.restrict A)) := by
  unfold insert
  rw [uuidParam_uuidOut]
  cases named : uuidParam productId with
  | error e => exact statement_error
  | ok product =>
      simp only [bind_ok]
      refine statement_insert fresh.next (fun _ _ => rfl) (fun _ _ => rfl) fun id now => ?_
      exact own product (uuidParam_eq_ok.mp named)

theorem statement_saveLoaded {draft : Draft} (isolated : w.db.Isolated)
    (own : w.db.variants.Owns A draft.entity.id) (tenant : draft.entity.tenantId = A) :
    Statement A w (saveLoaded draft w.db w)
      (saveLoaded draft (w.restrict A).db (w.restrict A)) := by
  obtain ⟨stored, found, mem, same, owner⟩ := rowById_of_owns (ρ := ProductVariant) own
  have again : (w.restrict A).db.rowById ProductVariant draft.entity.id = some stored :=
    (rowById_restrict own).trans found
  have clock : (w.restrict A).clock = w.clock := rfl
  unfold saveLoaded
  simp only [found, again, clock]
  cases made : overwrite draft w.clock stored with
  | error e => exact statement_error
  | ok row =>
      refine Change.bind (change_update (rewrites_of_owns own fun r hr named _ => ?_)) fun u _ =>
        statement_pure
      obtain rfl : r = stored := Table.eq_of_id hr mem (named.trans same.symm)
      obtain ⟨price, attributes, stamp, -, -, rfl⟩ := overwrite_ok made
      rw [merge_self]
      refine ⟨rfl, tenant, ?_⟩
      change w.db.products.Owns draft.entity.tenantId r.productId
      rw [tenant, ← show r.tenantId = A from owner]
      exact isolated.product r mem

theorem statement_softRemove {entity : ProductVariant} (isolated : w.db.Isolated)
    (own : w.db.variants.Owns A entity.id) :
    Statement A w (softRemove entity w) (softRemove entity (w.restrict A)) := by
  unfold softRemove
  refine Change.bind (change_update (rewrites_of_owns own fun r mem same owner => ?_)) fun u _ =>
    statement_pure
  exact ⟨same, owner, isolated.product r mem⟩

end Writes

/-! ### Calls -/

section Calls

variable {A : Uuid} {P : Fact} {platform : Platform} {context : Option AuditContextData}

theorem within_findProduct (productId : String) :
    Svc.Within A P (findProduct (uuidOut A) productId) fun _ => .productNamed A productId := by
  refine (within_query (Q := Fact.found fun _ : Product => .productNamed A productId) fun w _ _ =>
    ⟨readProduct_restrict productId, fun found read => ?_⟩).bind fun found => ?_
  · cases found with
    | none => trivial
    | some product => exact readProduct_owned read
  · cases found with
    | none => exact within_throw
    | some product => exact within_pure fun db known => known.2

theorem within_assertSkuUniqueness (sku : String) (excludeId : Option String) :
    Svc.Within A P (assertSkuUniqueness (uuidOut A) sku excludeId) fun _ => .none := by
  refine (within_query (Q := fun _ => .none) fun w _ _ =>
    ⟨skuExists_restrict sku excludeId, fun _ _ => trivial⟩).bind fun exist => ?_
  exact within_ite (fun _ => within_throw) fun _ => within_pure fun _ _ => trivial

theorem within_findOneById (variantId : String) :
    Svc.Within A P (findOneById (uuidOut A) variantId) fun v => .variant A v.id := by
  refine (within_query (Q := Fact.found fun v : ProductVariant => .variant A v.id) fun w _ _ =>
    ⟨?_, fun found read => ?_⟩).bind fun found => ?_
  · rw [uuidParam_uuidOut]
    simp only [bind_ok, World.restrict_db, readById_restrict]
  · rw [uuidParam_uuidOut] at read
    obtain ⟨id, -, answered⟩ := bind_eq_ok.mp read
    cases found with
    | none => trivial
    | some variant => exact readById_owned (Except.ok.inj answered)
  · cases found with
    | none => exact within_throw
    | some variant => exact within_pure fun db known => known.2

theorem within_findOne (productId variantId : String) :
    Svc.Within A P (findOne (uuidOut A) productId variantId) fun v =>
      (Fact.variant A v.id).and (.pure (v.tenantId = A)) := by
  refine (within_query (Q := Fact.found fun v : ProductVariant =>
    (Fact.variant A v.id).and (.pure (v.tenantId = A))) fun w sound _ =>
      ⟨readOne_restrict sound.isolated productId variantId, fun found read => ?_⟩).bind
        fun found => ?_
  · cases found with
    | none => trivial
    | some variant => exact readOne_owned read
  · cases found with
    | none => exact within_throw
    | some variant => exact within_pure fun db known => known.2

theorem within_findAll (productId : String) (query : VariantQueryDto) :
    Svc.Within A P (findAll platform (uuidOut A) productId query) fun _ => .none := by
  refine (within_findProduct productId).bind fun _ => ?_
  exact (within_listing fun w _ _ ties => readPage_restrict platform productId query _ _ ties).bind
    fun page => within_pure fun _ _ => trivial

theorem within_create (productId : String) (dto : CreateVariantDto) :
    Svc.Within A P (create context (uuidOut A) productId dto) fun _ => .none := by
  refine (within_findProduct productId).bind fun _ => ?_
  refine (within_assertSkuUniqueness dto.sku none).bind fun _ => within_translated ?_
  refine Within.bind (Q := fun _ => .none) (within_statement (fun w _ fresh known =>
    statement_insertVariant fresh productId dto ?_) fun _ _ _ _ _ _ => trivial) fun saved => ?_
  · intro product named
    obtain ⟨⟨-, u, text, owned⟩, -⟩ := known
    obtain rfl : u = product := Option.some.inj (text.symm.trans named)
    exact owned
  · exact within_record.bind fun _ => within_pure fun _ _ => trivial

theorem within_update (productId variantId : String) (dto : UpdateVariantDto) :
    Svc.Within A P (update context (uuidOut A) productId variantId dto) fun _ => .none := by
  refine (within_findOne productId variantId).bind fun variant => ?_
  have saves {P : Fact} (own : ∀ db, P.holds db → db.variants.Owns A variant.id ∧
      variant.tenantId = A) :
      Svc.Within A P (translated skuTaken do
        let draft := patched dto variant
        let saved ← saving (.variant draft.entity) (saveLoaded draft)
        AuditService.record context (updateAudit variant saved)
        pure saved) fun _ => .none := by
    refine within_translated ?_
    refine Within.bind (Q := fun _ => .none) (within_saving (fun w sound known =>
      statement_saveLoaded sound.isolated (own _ known).1 (own _ known).2)
        fun _ _ _ _ _ _ => trivial) fun saved => ?_
    exact within_record.bind fun _ => within_pure fun _ _ => trivial
  cases dto.sku.truthy with
  | none => exact saves fun db known => known.2
  | some sku =>
      refine within_ite (fun _ => ?_) fun _ => saves fun db known => known.2
      exact (within_assertSkuUniqueness sku _).bind fun _ => saves fun db known => known.1.2

theorem within_remove (productId variantId : String) :
    Svc.Within A P (remove context (uuidOut A) productId variantId) fun _ => .none := by
  refine (within_findOne productId variantId).bind fun variant => ?_
  refine Within.bind (Q := fun _ => .none) (within_softRemoving (fun w sound known =>
    statement_softRemove sound.isolated known.2.1) fun _ _ _ _ _ _ => trivial) fun _ => ?_
  exact within_record

end Calls
end VariantService
end Tenantory
