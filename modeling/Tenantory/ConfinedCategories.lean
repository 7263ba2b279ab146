import Tenantory.CategoryWrites
import Tenantory.TenantStatements

/-! The category service is confined to the tenant that it is called for. Parents and
children are joined without a look at the tenant; that references do not cross tenants
keeps them inside. -/

namespace Tenantory

open UuidText Stored Owned Svc

/-! ## The tenant's part of the tables -/

section Restricted

variable {A : Uuid} {db : Database}

theorem liveTenant_restrict (A : Uuid) (db : Database) :
    (db.restrict A).liveTenant A = db.liveTenant A :=
  Table.any_ofOwner (fun r h => by
    have named : r.id = A := by simpa using (Bool.and_eq_true_iff.mp h).1
    exact named) fun _ _ _ => rfl

theorem liveCategory?_restrict {id : Uuid} (own : db.categories.Owns A id) :
    (db.restrict A).liveCategory? id = db.liveCategory? id := by
  refine Table.find?_only (fun r mem h => ?_) fun _ _ _ => rfl
  have named : r.id = id := beq_iff_eq.mp (Bool.and_eq_true_iff.mp h).1
  subst named
  exact beq_iff_eq.mpr (Table.Owns.owner own mem)

theorem liveChildren_restrict (isolated : db.Isolated) {id : Uuid}
    (own : db.categories.Owns A id) : (db.restrict A).liveChildren id = db.liveChildren id := by
  refine Table.select_only (fun r mem h => ?_) fun _ _ _ => rfl
  have child : r.parentId = some id := by simpa using (Bool.and_eq_true_iff.mp h).1
  obtain ⟨parent, stored, named, owner⟩ := own
  have same := Table.Owns.owner (named ▸ isolated.parent r mem id child) stored
  have owner : Entity.owner r = A := same.symm.trans owner
  simp [owner]

theorem mem_liveChildren {id : Uuid} {c : Category} (mem : c ∈ db.liveChildren id) :
    c ∈ db.categories ∧ c.parentId = some id := by
  obtain ⟨stored, h⟩ := List.mem_filter.mp mem
  exact ⟨stored, by simpa using (Bool.and_eq_true_iff.mp h).1⟩

theorem owns_of_child (isolated : db.Isolated) {id : Uuid} (own : db.categories.Owns A id)
    {c : Category} (mem : c ∈ db.liveChildren id) : db.categories.Owns A c.id := by
  obtain ⟨stored, child⟩ := mem_liveChildren mem
  obtain ⟨parent, there, named, owner⟩ := own
  have same := Table.Owns.owner (named ▸ isolated.parent c stored id child) there
  exact ⟨c, stored, rfl, same.symm.trans owner⟩

namespace CategoryEntity

variable {c : Category}

theorem related_restrict (isolated : db.Isolated) (mem : c ∈ db.categories)
    (owner : c.tenantId = A) : related (db.restrict A) c = related db c := by
  have own : db.categories.Owns A c.id := ⟨c, mem, rfl, owner⟩
  have parent : (c.parentId.bind (db.restrict A).liveCategory?) =
      c.parentId.bind db.liveCategory? := by
    cases named : c.parentId with
    | none => rfl
    | some p => exact liveCategory?_restrict (owner ▸ isolated.parent c mem p named)
  unfold related
  rw [parent, liveChildren_restrict isolated own]

theorem related_owned (isolated : db.Isolated) (mem : c ∈ db.categories)
    (owner : c.tenantId = A) :
    (related db c).OwnedBy A db := by
  have own : db.categories.Owns A c.id := ⟨c, mem, rfl, owner⟩
  refine ⟨own, fun p hp => ?_, fun cs hcs child hc => ?_⟩
  · have found : (c.parentId.bind db.liveCategory?).map Category.columns = some p :=
      Option.some.inj hp
    obtain ⟨row, joined, rfl⟩ := Option.map_eq_some_iff.mp found
    obtain ⟨id, named, read⟩ := Option.bind_eq_some_iff.mp joined
    have same : row.id = id := by
      unfold Database.liveCategory? at read
      have holds := Table.holds_of_find? read
      exact beq_iff_eq.mp (Bool.and_eq_true_iff.mp holds).1
    have stored := isolated.parent c mem id named
    rw [owner, ← same] at stored
    exact stored
  · obtain rfl := Option.some.inj hcs
    obtain ⟨row, listed, rfl⟩ := List.mem_map.mp hc
    exact owns_of_child isolated own listed

end CategoryEntity

end Restricted

namespace CategoryService

/-! ## Reads -/

section Reads

variable {A : Uuid} {w : World}

theorem slugExists_restrict (slug : String) (excludeId : Option String) :
    slugExists (uuidOut A) slug excludeId (w.restrict A) =
      slugExists (uuidOut A) slug excludeId w := by
  unfold slugExists
  rw [uuidParam_uuidOut]
  cases excludeId.mapM uuidParam with
  | error e => rfl
  | ok exclude =>
      refine congrArg Except.ok (Table.any_ofOwner (fun r h => ?_) fun _ _ _ => rfl)
      simp only [Bool.and_eq_true, beq_iff_eq] at h
      exact h.1.1.1

theorem readParent_restrict (parentId : String) :
    readParent (uuidOut A) parentId (w.restrict A) = readParent (uuidOut A) parentId w := by
  unfold readParent
  rw [uuidParam_uuidOut]
  cases uuidParam parentId with
  | error e => rfl
  | ok id =>
      refine congrArg Except.ok (Table.find?_ofOwner (fun r h => ?_) fun r _ _ => ?_)
      · simp only [Bool.and_eq_true, beq_iff_eq] at h
        exact h.1.1.2
      · exact congrArg (fun live => _ && live && r.live) (liveTenant_restrict A w.db)

theorem readParent_owned {parentId : String} {parent : Category}
    (read : readParent (uuidOut A) parentId w = .ok (some parent)) :
    w.db.categories.Owns A parent.id := by
  unfold readParent at read
  rw [uuidParam_uuidOut] at read
  obtain ⟨id, -, found⟩ := bind_eq_ok.mp read
  have found := Except.ok.inj found
  have holds := Table.holds_of_find? found
  simp only [Bool.and_eq_true, beq_iff_eq] at holds
  exact ⟨parent, Table.mem_of_find? found, rfl, holds.1.1.2⟩

theorem readOne_restrict (isolated : w.db.Isolated) (id : String) :
    readOne (uuidOut A) id (w.restrict A) = readOne (uuidOut A) id w := by
  unfold readOne
  rw [uuidParam_uuidOut]
  cases uuidParam id with
  | error e => rfl
  | ok id =>
      have found : ((w.restrict A).db.categories.find? fun c => c.id == id && c.tenantId == A &&
            (w.restrict A).db.liveTenant A && c.live) =
          w.db.categories.find? fun c => c.id == id && c.tenantId == A && w.db.liveTenant A &&
            c.live := by
        refine Table.find?_ofOwner (fun r h => ?_) fun r _ _ => ?_
        · simp only [Bool.and_eq_true, beq_iff_eq] at h
          exact h.1.1.2
        · exact congrArg (fun live => _ && live && r.live) (liveTenant_restrict A w.db)
      change Except.ok _ = Except.ok _
      rw [found]
      cases read : w.db.categories.find? _ with
      | none => rfl
      | some c =>
          have holds := Table.holds_of_find? read
          simp only [Bool.and_eq_true, beq_iff_eq] at holds
          exact congrArg (fun entity => Except.ok (some entity))
            (CategoryEntity.related_restrict isolated (Table.mem_of_find? read) holds.1.1.2)

theorem readOne_owned (isolated : w.db.Isolated) {id : String} {entity : CategoryEntity}
    (read : readOne (uuidOut A) id w = .ok (some entity)) :
    uuidIn id = some entity.id ∧ entity.OwnedBy A w.db := by
  unfold readOne at read
  rw [uuidParam_uuidOut] at read
  obtain ⟨u, text, answered⟩ := bind_eq_ok.mp read
  obtain ⟨c, found, rfl⟩ := Option.map_eq_some_iff.mp (Except.ok.inj answered)
  have holds := Table.holds_of_find? found
  simp only [Bool.and_eq_true, beq_iff_eq] at holds
  refine ⟨?_, CategoryEntity.related_owned isolated (Table.mem_of_find? found) holds.1.1.2⟩
  rw [uuidParam_eq_ok.mp text, ← holds.1.1.1]
  rfl

theorem countChildren_restrict (isolated : w.db.Isolated) (id : String) :
    countChildren (uuidOut A) id (w.restrict A) = countChildren (uuidOut A) id w := by
  unfold countChildren
  rw [uuidParam_uuidOut]
  cases uuidParam id with
  | error e => rfl
  | ok id =>
      have rows : ((w.restrict A).db.categories.select fun c => c.parentId == some id &&
            ((w.restrict A).db.liveCategory? id).isSome && c.tenantId == A &&
            (w.restrict A).db.liveTenant A && c.live) =
          w.db.categories.select fun c => c.parentId == some id &&
            (w.db.liveCategory? id).isSome && c.tenantId == A && w.db.liveTenant A && c.live := by
        refine Table.select_ofOwner (fun r h => ?_) fun r mem owner => ?_
        · simp only [Bool.and_eq_true, beq_iff_eq] at h
          exact h.1.1.2
        · by_cases child : r.parentId = some id
          · have own : w.db.categories.Owns A id := owner ▸ isolated.parent r mem id child
            have parent : (w.restrict A).db.liveCategory? id = w.db.liveCategory? id :=
              liveCategory?_restrict own
            have tenant : (w.restrict A).db.liveTenant A = w.db.liveTenant A :=
              liveTenant_restrict A w.db
            rw [parent, tenant]
          · have other : (r.parentId == some id) = false := beq_eq_false_iff_ne.mpr child
            rw [other]
            rfl
      change Except.ok _ = Except.ok _
      rw [rows]

theorem readTree_restrict (platform : Platform) (ties : Uuid → ℕ) :
    readTree platform (uuidOut A) ties (w.restrict A) = readTree platform (uuidOut A) ties w := by
  unfold readTree
  rw [uuidParam_uuidOut]
  have rows : ((w.restrict A).db.categories.select fun c =>
        c.tenantId == A && (w.restrict A).db.liveTenant A && c.live) =
      w.db.categories.select fun c => c.tenantId == A && w.db.liveTenant A && c.live := by
    refine Table.select_ofOwner (fun r h => ?_) fun r _ _ => ?_
    · simp only [Bool.and_eq_true, beq_iff_eq] at h
      exact h.1.1
    · exact congrArg (fun live => _ && live && r.live) (liveTenant_restrict A w.db)
  change Except.ok _ = Except.ok _
  rw [rows]

theorem matching_restrict (platform : Platform) (parent : Option Uuid) (query : CategoryQueryDto)
    (db : Database) : matching platform A parent query (db.restrict A) =
      matching platform A parent query db := by
  refine Table.select_ofOwner (fun r h => ?_) fun _ _ _ => rfl
  simp only [Bool.and_eq_true, beq_iff_eq] at h
  exact h.1.1.1

theorem joinChildren_restrict {db : Database} (isolated : db.Isolated) {rows : List Category}
    (own : ∀ c ∈ rows, db.categories.Owns A c.id) :
    joinChildren (db.restrict A) rows = joinChildren db rows := by
  refine List.flatMap_congr fun c mem => ?_
  rw [liveChildren_restrict isolated (own c mem)]

theorem readJoined_restrict (platform : Platform) (ties : Uuid → ℕ) (sortBy : CategorySort)
    (sortOrder : SortOrder) (skip limit : ℕ) {db : Database} (isolated : db.Isolated)
    {rows : List Category} (own : ∀ c ∈ rows, db.categories.Owns A c.id) :
    readJoined platform ties sortBy sortOrder skip limit rows (db.restrict A) =
      readJoined platform ties sortBy sortOrder skip limit rows db := by
  have sorted {some : List Category} (part : ∀ c ∈ some, c ∈ rows) :
      ∀ c ∈ platform.orderBy ties sortOrder (sortColumn sortBy) some,
        db.categories.Owns A c.id :=
    fun c mem => own c (part c ((perm_orderBy platform ties sortOrder _ some).mem_iff.mp mem))
  unfold readJoined
  dsimp only
  rw [joinChildren_restrict isolated (sorted fun _ mem => mem), joinChildren_restrict isolated own,
    joinChildren_restrict isolated (sorted fun c mem => List.mem_of_mem_filter mem)]

theorem readPage_restrict (platform : Platform) (query : CategoryQueryDto) (page limit : ℕ)
    (ties : Uuid → ℕ) (isolated : w.db.Isolated) :
    readPage platform (uuidOut A) query page limit ties (w.restrict A) =
      readPage platform (uuidOut A) query page limit ties w := by
  have own (parent : Option Uuid) : ∀ c ∈ matching platform A parent query w.db,
      w.db.categories.Owns A c.id := by
    intro c mem
    obtain ⟨stored, h⟩ := List.mem_filter.mp mem
    simp only [Bool.and_eq_true, beq_iff_eq] at h
    exact ⟨c, stored, rfl, h.1.1.1⟩
  have joined (parent : Option Uuid) := readJoined_restrict platform ties
    (query.sortBy.getD .name) (query.sortOrder.getD .asc) ((page - 1) * limit) limit isolated
    (own parent)
  unfold readPage
  rw [uuidParam_uuidOut]
  simp only [bind_ok, World.restrict_db, matching_restrict, joined]

end Reads

/-! ## Writes -/

section Writes

variable {A : Uuid} {w : World} {entity : CategoryEntity}

theorem statement_insertCategory (fresh : w.Fresh) {name slug : String} {parent : Option Category}
    (own : ∀ p, parent = some p → w.db.categories.Owns A p.id) :
    Statement A w (insert (uuidOut A) name slug parent w)
      (insert (uuidOut A) name slug parent (w.restrict A)) := by
  unfold insert
  rw [uuidParam_uuidOut]
  refine Statement.map ?_ fun row : Category =>
    { CategoryEntity.plain row with parent := parent.map fun p : Category => some p.columns }
  refine statement_insert fresh.next (fun _ _ => rfl) (fun _ _ => rfl) fun id now p named => ?_
  obtain ⟨q, given, rfl⟩ := Option.map_eq_some_iff.mp named
  exact own q given

/-- The children of a saved entity are rows of its tenant, as it is itself. -/
theorem change_saveChildren {u : World} (isolated : w.db.Isolated) (own : entity.OwnedBy A w.db)
    (since : World.Written A w u) :
    Change A u (saveChildren entity w.db u)
      (saveChildren entity (w.restrict A).db (u.restrict A)) := by
  have bindable {v : World} (later : World.Written A u v) {id : Uuid}
      (child : w.db.categories.Owns A id) {f : Category → Category}
      (keeps : ∀ r : Category, (f r).id = r.id ∧ (f r).tenantId = r.tenantId)
      (parent : ∀ r : Category, (f r).parentId = some entity.id ∨ (f r).parentId = none) :
      Change A v (v.update id f) ((v.restrict A).update id f) := by
    have ext := since.grown.extend.trans later.grown.extend
    refine change_update (rewrites_of_owns (ext.categories _ _ child) fun r _ same owner => ?_)
    have owner' : (f r).tenantId = A := (keeps r).2.trans owner
    refine ⟨(keeps r).1.trans same, owner', fun p named => ?_⟩
    rcases parent r with here | gone
    · cases here.symm.trans named
      exact owner' ▸ ext.categories _ _ own.id
    · cases gone.symm.trans named
  have stored : (w.restrict A).db.liveChildren entity.id = w.db.liveChildren entity.id :=
    liveChildren_restrict isolated own.id
  unfold saveChildren
  cases listed : entity.children with
  | none => exact change_pure
  | some children =>
      dsimp only
      rw [stored]
      refine Change.andThen (change_foldlM fun v later c mem => ?_) fun u' first =>
        change_foldlM fun v later c mem => ?_
      · exact bindable later (own.children _ listed c (List.mem_of_mem_filter mem))
          (fun _ => ⟨rfl, rfl⟩) fun _ => .inl rfl
      · exact bindable (first.trans later)
          (owns_of_child isolated own.id (List.mem_of_mem_filter mem)) (fun _ => ⟨rfl, rfl⟩)
          fun _ => .inr rfl

theorem statement_saveLoaded (isolated : w.db.Isolated) (own : entity.OwnedBy A w.db) :
    Statement A w (saveLoaded entity w.db w)
      (saveLoaded entity (w.restrict A).db (w.restrict A)) := by
  obtain ⟨stored, found, mem, same, owner⟩ := rowById_of_owns (ρ := Category) own.id
  have again : (w.restrict A).db.rowById Category entity.id = some stored :=
    (rowById_restrict own.id).trans found
  unfold saveLoaded
  rw [found, again]
  dsimp only
  refine Change.bind (change_update (rewrites_of_owns own.id fun r hr named _ => ?_)) fun u first =>
    (change_saveChildren isolated own first).bind fun v _ => statement_pure
  obtain rfl : r = stored := Table.eq_of_id hr mem (named.trans same.symm)
  rw [merge_self]
  obtain ⟨stamp, made⟩ := overwrite_eq entity w.clock r
  have owner' : (overwrite entity w.clock r).tenantId = A := by
    rw [made]
    exact owner
  refine ⟨(overwrite_id entity w.clock r).trans same, owner', fun p named => ?_⟩
  rw [owner']
  have named : (written entity r).parentId = some p := by
    rw [made] at named
    exact named
  unfold written at named
  cases set : entity.parent with
  | none =>
      rw [set] at named
      have stays := isolated.parent r mem p named
      rwa [show r.tenantId = A from owner] at stays
  | some given =>
      rw [set] at named
      obtain ⟨q, rfl, rfl⟩ := Option.map_eq_some_iff.mp named
      exact own.parent q set

theorem statement_softRemoveLoaded (isolated : w.db.Isolated) (own : entity.OwnedBy A w.db) :
    Statement A w (softRemoveLoaded entity w.db w)
      (softRemoveLoaded entity (w.restrict A).db (w.restrict A)) := by
  unfold softRemoveLoaded
  refine (change_saveChildren isolated own (.refl A w)).bind fun u first => ?_
  refine Change.bind (change_update (rewrites_of_owns
    (first.grown.extend.categories _ _ own.id) fun r mem same owner => ?_)) fun v _ =>
      statement_pure
  refine ⟨same, owner, fun p named => ?_⟩
  have isolated' := first.grown.isolated isolated
  exact isolated'.parent r mem p named

end Writes

/-! ## Calls -/

section Calls

variable {A : Uuid} {P : Fact} {platform : Platform} {context : Option AuditContextData}

theorem within_assertSlugUnique (slug : String) (excludeId : Option String) :
    Svc.Within A P (assertSlugUnique (uuidOut A) slug excludeId) fun _ => .none := by
  refine (within_query (Q := fun _ => .none) fun w _ _ =>
    ⟨slugExists_restrict slug excludeId, fun _ _ => trivial⟩).bind fun taken => ?_
  exact within_ite (fun _ => within_throw) fun _ => within_pure fun _ _ => trivial

theorem within_assertParentExists (parentId : String) :
    Svc.Within A P (assertParentExists (uuidOut A) parentId) fun p => .category A p.id := by
  refine (within_query (Q := Fact.found fun p : Category => .category A p.id) fun w _ _ =>
    ⟨readParent_restrict parentId, fun found read => ?_⟩).bind fun found => ?_
  · cases found with
    | none => trivial
    | some parent => exact readParent_owned read
  · cases found with
    | none => exact within_throw
    | some parent => exact within_pure fun db known => known.2

theorem within_findOne (id : String) :
    Svc.Within A P (findOne (uuidOut A) id) fun e =>
      (Fact.pure (uuidIn id = some e.id)).and (.categoryEntity A e) := by
  have own := CacheKeys.ofTenant_of_append (CacheKeys.category_eq A id)
  refine (within_get (Q := fun e : CategoryEntity =>
    (Fact.pure (uuidIn id = some e.id)).and (.categoryEntity A e)) own
      fun db value e fits read => ?_).bind fun found => ?_
  · cases value with
    | category entity =>
        cases read
        exact fits A id rfl
    | _ => cases read
  · cases found with
    | some cached => exact within_pure fun db known => known.2
    | none =>
        refine (within_query (Q := Fact.found fun e : CategoryEntity =>
          (Fact.pure (uuidIn id = some e.id)).and (.categoryEntity A e)) fun w sound _ =>
            ⟨readOne_restrict sound.isolated id, fun found read => ?_⟩).bind fun found => ?_
        · cases found with
          | none => trivial
          | some entity => exact readOne_owned sound.isolated read
        · cases found with
          | none => exact within_throw
          | some result =>
              refine Within.bind (within_set own ?_) fun _ => ?_
              · intro db known B other same
                obtain ⟨rfl, rfl⟩ := CacheKeys.category_inj same
                exact known.2
              · exact within_pure fun db known => known.1.2

theorem within_findTree : Svc.Within A P (findTree platform (uuidOut A)) fun _ => .none := by
  have own := CacheKeys.ofTenant_of_append (CacheKeys.categoriesTree_eq A)
  refine (within_get (Q := fun _ => .none) own fun _ _ _ _ _ => trivial).bind fun found => ?_
  cases found with
  | some cached => exact within_pure fun _ _ => trivial
  | none =>
      refine (within_listing fun w _ _ ties => readTree_restrict platform ties).bind
        fun result => ?_
      refine within_ite (fun _ => within_throw) fun _ => ?_
      exact Within.bind (within_set own fun _ _ => trivial) fun _ => within_pure fun _ _ => trivial

theorem within_findAll (query : CategoryQueryDto) :
    Svc.Within A P (findAll platform (uuidOut A) query) fun _ => .none := by
  have own := CacheKeys.ofTenant_of_append (CacheKeys.categoriesList_eq platform A query.toJson)
  refine (within_get (Q := fun _ => .none) own fun _ _ _ _ _ => trivial).bind fun found => ?_
  cases found with
  | some cached => exact within_pure fun _ _ => trivial
  | none =>
      refine (within_listing fun w sound _ ties =>
        readPage_restrict platform query _ _ ties sound.isolated).bind fun page => ?_
      exact Within.bind (within_set own fun _ _ => trivial) fun _ => within_pure fun _ _ => trivial

theorem within_invalidateCollections :
    Svc.Within A P (invalidateCollections (uuidOut A)) fun _ => .none :=
  (within_delByPattern (CacheKeys.categoriesPattern_eq A)).bind fun _ =>
    within_delByPattern (CacheKeys.productsPattern_eq A)

theorem within_create (dto : CreateCategoryDto) :
    Svc.Within A P (create platform context (uuidOut A) dto) fun _ => .none := by
  refine (within_assertSlugUnique _ none).bind fun _ => ?_
  refine (within_mapM within_assertParentExists _).bind fun parent => within_translated ?_
  refine Within.bind (Q := fun _ => .none) (within_statement (fun w _ fresh known =>
    statement_insertCategory fresh ?_) fun _ _ _ _ _ _ => trivial) fun category => ?_
  · rintro p rfl
    exact known.2
  · exact within_record.bind fun _ => within_invalidateCollections.bind fun _ =>
      within_pure fun _ _ => trivial

/-- The chosen parent is a category of the tenant when the one that is there is. -/
theorem within_chooseParent (id : String) (parentId : Property String)
    {current : Option (Option CategoryColumns)}
    (own : ∀ db, P.holds db → ∀ p, current = some (some p) → db.categories.Owns A p.id) :
    Svc.Within A P (chooseParent (uuidOut A) id parentId current) fun chosen =>
      Fact.all fun p : { p : CategoryColumns // chosen = some (some p) } => .category A p.1.id := by
  cases parentId with
  | undefined => exact within_pure fun db known p => own db known p.1 p.2
  | null => exact within_pure fun _ _ p => nomatch p.2
  | value text =>
      refine within_ite (fun _ => within_throw) fun _ => within_ite (fun _ => ?_) fun _ => ?_
      · exact within_pure fun _ _ p => nomatch p.2
      · refine (within_assertParentExists text).bind fun parent => within_pure ?_
        rintro db known ⟨p, same⟩
        cases same
        exact known.2

theorem within_update (id : String) (dto : UpdateCategoryDto) :
    Svc.Within A P (update platform context (uuidOut A) id dto) fun _ => .none := by
  refine (within_findOne id).bind fun target => (within_assertSlugUnique _ _).bind fun _ => ?_
  refine Within.bind (within_chooseParent id dto.parentId ?_) fun parent => within_translated ?_
  · exact fun db known => known.1.2.2.parent
  refine Within.bind (Q := fun _ => .none) (within_saving (fun w sound known =>
    statement_saveLoaded sound.isolated ?_) fun _ _ _ _ _ _ => trivial) fun saved => ?_
  · obtain ⟨⟨⟨-, -, target⟩, -⟩, parent⟩ := known
    exact ⟨target.id, fun p given => parent ⟨p, given⟩, target.children⟩
  · have own := CacheKeys.ofTenant_of_append (CacheKeys.category_eq A id)
    exact within_record.bind fun _ => (within_del own).bind fun _ =>
      within_invalidateCollections.bind fun _ => within_pure fun _ _ => trivial

theorem within_remove (id : String) :
    Svc.Within A P (remove context (uuidOut A) id) fun _ => .none := by
  have own := CacheKeys.ofTenant_of_append (CacheKeys.category_eq A id)
  refine (within_findOne id).bind fun target => ?_
  refine (within_query (Q := fun _ => .none) fun w sound _ =>
    ⟨countChildren_restrict sound.isolated id, fun _ _ => trivial⟩).bind
      fun numberOfChildren => ?_
  refine within_ite (fun _ => within_throw) fun _ => ?_
  refine Within.bind (Q := fun _ => .none) (within_softRemoving (fun w sound known =>
    statement_softRemoveLoaded sound.isolated known.1.2.2) fun _ _ _ _ _ _ => trivial) fun _ => ?_
  exact within_record.bind fun _ => (within_del own).bind fun _ => within_invalidateCollections

end Calls
end CategoryService
end Tenantory
