import Tenantory.ItemOwners
import Tenantory.SupplierService
import Tenantory.TenantStatements

/-! The services of warehouses and suppliers are confined to the tenant that they are
called for. -/

namespace Tenantory

open UuidText Stored Owned Svc

/-! ## Warehouses -/

namespace WarehouseService

section Statements

variable {A : Uuid} {w : World}

theorem nameExists_restrict (name : String) (excludeId : Option String) :
    nameExists (uuidOut A) name excludeId (w.restrict A) =
      nameExists (uuidOut A) name excludeId w := by
  unfold nameExists
  rw [uuidParam_uuidOut]
  cases excludeId.mapM uuidParam with
  | error e => rfl
  | ok exclude =>
      refine congrArg Except.ok (Table.any_ofOwner (fun r h => ?_) fun _ _ _ => rfl)
      simp only [Bool.and_eq_true, beq_iff_eq] at h
      exact h.1.1.1

theorem readPage_restrict (platform : Platform) (query : WarehouseQueryDto) (skip : ℕ)
    (ties : Uuid → ℕ) :
    readPage platform (uuidOut A) query skip ties (w.restrict A) =
      readPage platform (uuidOut A) query skip ties w := by
  have rows : ((w.restrict A).db.warehouses.select fun h => h.tenantId == A && h.live &&
        query.search.all fun search =>
          search == "" || platform.ilike ("%" ++ search ++ "%") h.name) =
      w.db.warehouses.select fun h => h.tenantId == A && h.live &&
        query.search.all fun search =>
          search == "" || platform.ilike ("%" ++ search ++ "%") h.name := by
    refine Table.select_ofOwner (fun r h => ?_) fun _ _ _ => rfl
    simp only [Bool.and_eq_true, beq_iff_eq] at h
    exact h.1.1
  unfold readPage
  rw [uuidParam_uuidOut]
  simp only [bind_ok, rows]

theorem statement_insertWarehouse (fresh : w.Fresh) (dto : CreateWarehouseDto) :
    Statement A w (insert (uuidOut A) dto w) (insert (uuidOut A) dto (w.restrict A)) := by
  unfold insert
  rw [uuidParam_uuidOut]
  simp only [bind_ok]
  exact statement_insert fresh.next (fun _ _ => rfl) (fun _ _ => rfl) fun _ _ => trivial

theorem statement_saveLoaded {entity : Warehouse} (own : w.db.warehouses.Owns A entity.id)
    (tenant : entity.tenantId = A) :
    Statement A w (saveLoaded entity w.db w)
      (saveLoaded entity (w.restrict A).db (w.restrict A)) := by
  obtain ⟨stored, found, mem, same, -⟩ := rowById_of_owns (ρ := Warehouse) own
  have again : (w.restrict A).db.rowById Warehouse entity.id = some stored :=
    (rowById_restrict own).trans found
  have clock : (w.restrict A).clock = w.clock := rfl
  unfold saveLoaded
  simp only [found, again, clock]
  refine Change.bind (change_update (rewrites_of_owns own fun r hr named _ => ?_)) fun u _ =>
    statement_pure
  obtain rfl : r = stored := Table.eq_of_id hr mem (named.trans same.symm)
  rw [merge_self]
  obtain ⟨id, owner⟩ := overwrite_owner entity w.clock r
  exact ⟨id, owner.trans tenant, trivial⟩

theorem statement_softRemove {entity : Warehouse} (own : w.db.warehouses.Owns A entity.id) :
    Statement A w (softRemove entity w) (softRemove entity (w.restrict A)) := by
  unfold softRemove
  exact Change.bind (change_update (rewrites_of_owns own fun r _ same owner =>
    ⟨same, owner, trivial⟩)) fun u _ => statement_pure

end Statements

section Calls

variable {A : Uuid} {P : Fact} {platform : Platform} {context : Option AuditContextData}

theorem within_assertNameUnique (name : String) (excludeId : Option String) :
    Svc.Within A P (assertNameUnique (uuidOut A) name excludeId) fun _ => .none := by
  refine (within_query (Q := fun _ => .none) fun w _ _ =>
    ⟨nameExists_restrict name excludeId, fun _ _ => trivial⟩).bind fun exists_ => ?_
  exact within_ite (fun _ => within_throw) fun _ => within_pure fun _ _ => trivial

theorem readById_restrict (db : Database) (id : Uuid) :
    readById (db.restrict A) A id = readById db A id := by
  refine Table.find?_ofOwner (fun r h => ?_) fun _ _ _ => rfl
  simp only [Bool.and_eq_true, beq_iff_eq] at h
  exact h.1.1

theorem readById_owned {db : Database} {id : Uuid} {warehouse : Warehouse}
    (read : readById db A id = some warehouse) :
    db.warehouses.Owns A warehouse.id ∧ warehouse.tenantId = A := by
  have holds := Table.holds_of_find? read
  simp only [Bool.and_eq_true, beq_iff_eq] at holds
  exact ⟨⟨warehouse, Table.mem_of_find? read, rfl, holds.1.1⟩, holds.1.1⟩

theorem within_findOne (id : String) :
    Svc.Within A P (findOne (uuidOut A) id) fun h =>
      (Fact.warehouse A h.id).and (.pure (h.tenantId = A)) := by
  refine (within_query (Q := Fact.found fun h : Warehouse =>
    (Fact.warehouse A h.id).and (.pure (h.tenantId = A))) fun w _ _ =>
      ⟨?_, fun found read => ?_⟩).bind fun found => ?_
  · rw [uuidParam_uuidOut]
    simp only [bind_ok, World.restrict_db, readById_restrict]
  · rw [uuidParam_uuidOut, bind_ok] at read
    obtain ⟨id, -, answered⟩ := bind_eq_ok.mp read
    cases found with
    | none => trivial
    | some warehouse => exact readById_owned (Except.ok.inj answered)
  · cases found with
    | none => exact within_throw
    | some warehouse => exact within_pure fun db known => known.2

theorem within_findAll (query : WarehouseQueryDto) :
    Svc.Within A P (findAll platform (uuidOut A) query) fun _ => .none :=
  (within_listing fun _ _ _ ties => readPage_restrict platform query _ ties).bind fun _ =>
    within_pure fun _ _ => trivial

theorem within_create (dto : CreateWarehouseDto) :
    Svc.Within A P (create context (uuidOut A) dto) fun _ => .none := by
  refine (within_assertNameUnique dto.name none).bind fun _ => within_translated ?_
  refine Within.bind (Q := fun _ => .none) (within_statement (fun w _ fresh _ =>
    statement_insertWarehouse fresh dto) fun _ _ _ _ _ _ => trivial) fun saved => ?_
  exact within_record.bind fun _ => within_pure fun _ _ => trivial

theorem within_update (id : String) (dto : UpdateWarehouseDto) :
    Svc.Within A P (update context (uuidOut A) id dto) fun _ => .none := by
  refine (within_findOne id).bind fun warehouse => ?_
  have saves {P : Fact} (own : ∀ db, P.holds db → db.warehouses.Owns A warehouse.id ∧
      warehouse.tenantId = A) :
      Svc.Within A P (translated nameTaken do
        let edited := patched dto warehouse
        let saved ← saving (.warehouse edited) (saveLoaded edited)
        AuditService.record context (updateAudit warehouse saved)
        pure saved) fun _ => .none := by
    refine within_translated ?_
    refine Within.bind (Q := fun _ => .none) (within_saving (fun w _ known =>
      statement_saveLoaded (own _ known).1 (own _ known).2) fun _ _ _ _ _ _ => trivial)
        fun saved => ?_
    exact within_record.bind fun _ => within_pure fun _ _ => trivial
  dsimp only
  cases dto.name.truthy with
  | none => exact saves fun db known => known.2
  | some name =>
      exact (within_assertNameUnique name _).bind fun _ => saves fun db known => known.1.2

theorem within_remove (id : String) :
    Svc.Within A P (remove context (uuidOut A) id) fun _ => .none := by
  refine (within_findOne id).bind fun warehouse => ?_
  refine Within.bind (Q := fun _ => .none) (within_softRemoving (fun w _ known =>
    statement_softRemove known.2.1) fun _ _ _ _ _ _ => trivial) fun _ => ?_
  exact within_record

end Calls
end WarehouseService

/-! ## Suppliers -/

namespace SupplierService

section Statements

variable {A : Uuid} {w : World}

theorem nameExists_restrict (name : String) (excludeId : Option String) :
    nameExists (uuidOut A) name excludeId (w.restrict A) =
      nameExists (uuidOut A) name excludeId w := by
  unfold nameExists
  rw [uuidParam_uuidOut]
  cases excludeId.mapM uuidParam with
  | error e => rfl
  | ok exclude =>
      refine congrArg Except.ok (Table.any_ofOwner (fun r h => ?_) fun _ _ _ => rfl)
      simp only [Bool.and_eq_true, beq_iff_eq] at h
      exact h.1.1.1

theorem readPage_restrict (platform : Platform) (query : SupplierQueryDto) (skip : ℕ)
    (ties : Uuid → ℕ) :
    readPage platform (uuidOut A) query skip ties (w.restrict A) =
      readPage platform (uuidOut A) query skip ties w := by
  have rows : ((w.restrict A).db.suppliers.select fun s => s.tenantId == A && s.live &&
        query.search.all fun search =>
          search == "" || platform.ilike ("%" ++ search ++ "%") s.companyName) =
      w.db.suppliers.select fun s => s.tenantId == A && s.live &&
        query.search.all fun search =>
          search == "" || platform.ilike ("%" ++ search ++ "%") s.companyName := by
    refine Table.select_ofOwner (fun r h => ?_) fun _ _ _ => rfl
    simp only [Bool.and_eq_true, beq_iff_eq] at h
    exact h.1.1
  unfold readPage
  rw [uuidParam_uuidOut]
  simp only [bind_ok, rows]

theorem statement_insertSupplier (fresh : w.Fresh) (dto : CreateSupplierDto) :
    Statement A w (insert (uuidOut A) dto w) (insert (uuidOut A) dto (w.restrict A)) := by
  unfold insert
  rw [uuidParam_uuidOut]
  simp only [bind_ok]
  exact statement_insert fresh.next (fun _ _ => rfl) (fun _ _ => rfl) fun _ _ => trivial

theorem overwrite_owner (entity : Supplier) (now : Timestamp) (stored : Supplier) :
    (overwrite entity now stored).id = entity.id ∧
      (overwrite entity now stored).tenantId = entity.tenantId := by
  unfold overwrite
  split
  · rename_i same
    rw [same]
    exact ⟨rfl, rfl⟩
  · split
    · exact ⟨rfl, rfl⟩
    · exact ⟨rfl, rfl⟩

theorem statement_saveLoaded {entity : Supplier} (own : w.db.suppliers.Owns A entity.id)
    (tenant : entity.tenantId = A) :
    Statement A w (saveLoaded entity w.db w)
      (saveLoaded entity (w.restrict A).db (w.restrict A)) := by
  obtain ⟨stored, found, mem, same, -⟩ := rowById_of_owns (ρ := Supplier) own
  have again : (w.restrict A).db.rowById Supplier entity.id = some stored :=
    (rowById_restrict own).trans found
  have clock : (w.restrict A).clock = w.clock := rfl
  unfold saveLoaded
  simp only [found, again, clock]
  refine Change.bind (change_update (rewrites_of_owns own fun r hr named _ => ?_)) fun u _ =>
    statement_pure
  obtain rfl : r = stored := Table.eq_of_id hr mem (named.trans same.symm)
  rw [merge_self]
  obtain ⟨id, owner⟩ := overwrite_owner entity w.clock r
  exact ⟨id, owner.trans tenant, trivial⟩

theorem statement_softRemove {entity : Supplier} (own : w.db.suppliers.Owns A entity.id) :
    Statement A w (softRemove entity w) (softRemove entity (w.restrict A)) := by
  unfold softRemove
  exact Change.bind (change_update (rewrites_of_owns own fun r _ same owner =>
    ⟨same, owner, trivial⟩)) fun u _ => statement_pure

end Statements

section Calls

variable {A : Uuid} {P : Fact} {platform : Platform} {context : Option AuditContextData}

theorem within_assertCompanyNameUnique (name : String) (excludeId : Option String) :
    Svc.Within A P (assertCompanyNameUnique (uuidOut A) name excludeId) fun _ => .none := by
  refine (within_query (Q := fun _ => .none) fun w _ _ =>
    ⟨nameExists_restrict name excludeId, fun _ _ => trivial⟩).bind fun exists_ => ?_
  exact within_ite (fun _ => within_throw) fun _ => within_pure fun _ _ => trivial

theorem readOne_restrict (id : String) (w : World) :
    readOne (uuidOut A) id (w.restrict A) = readOne (uuidOut A) id w := by
  unfold readOne
  rw [uuidParam_uuidOut]
  cases uuidParam id with
  | error e => rfl
  | ok id =>
      refine congrArg Except.ok (Table.find?_ofOwner (fun r h => ?_) fun _ _ _ => rfl)
      simp only [Bool.and_eq_true, beq_iff_eq] at h
      exact h.1.1

theorem readOne_owned {id : String} {w : World} {supplier : Supplier}
    (read : readOne (uuidOut A) id w = .ok (some supplier)) :
    w.db.suppliers.Owns A supplier.id ∧ supplier.tenantId = A := by
  unfold readOne at read
  rw [uuidParam_uuidOut, bind_ok] at read
  obtain ⟨u, -, found⟩ := bind_eq_ok.mp read
  have found := Except.ok.inj found
  have holds := Table.holds_of_find? found
  simp only [Bool.and_eq_true, beq_iff_eq] at holds
  exact ⟨⟨supplier, Table.mem_of_find? found, rfl, holds.1.1⟩, holds.1.1⟩

theorem within_findOne (id : String) :
    Svc.Within A P (findOne (uuidOut A) id) fun s =>
      (Fact.supplier A s.id).and (.pure (s.tenantId = A)) := by
  refine (within_query (Q := Fact.found fun s : Supplier =>
    (Fact.supplier A s.id).and (.pure (s.tenantId = A))) fun w _ _ =>
      ⟨readOne_restrict id w, fun found read => ?_⟩).bind fun found => ?_
  · cases found with
    | none => trivial
    | some supplier => exact readOne_owned read
  · cases found with
    | none => exact within_throw
    | some supplier => exact within_pure fun db known => known.2

theorem within_findAll (query : SupplierQueryDto) :
    Svc.Within A P (findAll platform (uuidOut A) query) fun _ => .none :=
  (within_listing fun _ _ _ ties => readPage_restrict platform query _ ties).bind fun _ =>
    within_pure fun _ _ => trivial

theorem within_create (dto : CreateSupplierDto) :
    Svc.Within A P (create context (uuidOut A) dto) fun _ => .none := by
  refine (within_assertCompanyNameUnique dto.companyName none).bind fun _ => within_translated ?_
  refine Within.bind (Q := fun _ => .none) (within_statement (fun w _ fresh _ =>
    statement_insertSupplier fresh dto) fun _ _ _ _ _ _ => trivial) fun saved => ?_
  exact within_record.bind fun _ => within_pure fun _ _ => trivial

theorem within_update (id : String) (dto : UpdateSupplierDto) :
    Svc.Within A P (update context (uuidOut A) id dto) fun _ => .none := by
  refine (within_findOne id).bind fun supplier => ?_
  have saves {P : Fact} (own : ∀ db, P.holds db → db.suppliers.Owns A supplier.id ∧
      supplier.tenantId = A) :
      Svc.Within A P (translated nameTaken do
        let edited := patched dto supplier
        let saved ← saving (.supplier edited) (saveLoaded edited)
        AuditService.record context (updateAudit supplier saved)
        pure saved) fun _ => .none := by
    refine within_translated ?_
    refine Within.bind (Q := fun _ => .none) (within_saving (fun w _ known =>
      statement_saveLoaded (own _ known).1 (own _ known).2) fun _ _ _ _ _ _ => trivial)
        fun saved => ?_
    exact within_record.bind fun _ => within_pure fun _ _ => trivial
  dsimp only
  cases dto.companyName.truthy with
  | none => exact saves fun db known => known.2
  | some name =>
      exact (within_assertCompanyNameUnique name _).bind fun _ => saves fun db known => known.1.2

theorem within_remove (id : String) :
    Svc.Within A P (remove context (uuidOut A) id) fun _ => .none := by
  refine (within_findOne id).bind fun supplier => ?_
  refine Within.bind (Q := fun _ => .none) (within_softRemoving (fun w _ known =>
    statement_softRemove known.2.1) fun _ _ _ _ _ _ => trivial) fun _ => ?_
  exact within_record

end Calls
end SupplierService

end Tenantory
