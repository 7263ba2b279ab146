import Tenantory.LiveNames
import Tenantory.SampleShop

/-! Creations and updates of warehouses, suppliers and products, interleaved. Each looks for a
holder of the name in one statement and writes in a later one; names stay unique as long as
nobody else takes the name in between. -/

namespace Tenantory

open Named Stored Svc UuidText

/-! ## The condition on the schedule -/

section Since

variable (ρ : Type) [Named ρ]

/-- Whoever else holds the name by now has held it in all of the states. -/
def NotTakenSince (past : List World) (w : World) (i : Option Uuid) (h : Holder) : Prop :=
  ∀ s ∈ (table w.db : Table ρ).rows, (holder s).live → i ≠ some (Entity.id s) →
    h.SameName (holder s) → ∀ u ∈ past, ∃ r ∈ (table u.db : Table ρ).rows,
      Entity.id r = Entity.id s ∧ (holder r).live ∧ h.SameName (holder r)

instance (past : List World) (w : World) (i : Option Uuid) (h : Holder) :
    Decidable (NotTakenSince ρ past w i h) := by
  unfold NotTakenSince
  infer_instance

end Since

/-- A fact about the tenant that a text names. -/
instance {text : String} {P : Uuid → Prop} [DecidablePred P] :
    Decidable (∀ tenant, uuidIn text = some tenant → P tenant) :=
  match uuidIn text with
  | none => isTrue fun _ impossible => nomatch impossible
  | some tenant => decidable_of_iff (P tenant)
      ⟨fun holds _ same => Option.some.inj same ▸ holds, fun all => all tenant rfl⟩

/-- Since the call's own earlier statements nobody else has taken the name that the statement
gives; what is saved of a product is a copy of the stored one, with its SKU prefix. -/
def Uncontested (past : List World) (w : World) : Label → Prop
  | .insert (.warehouse tenantId name) => ∀ tenant, uuidIn tenantId = some tenant →
      NotTakenSince Warehouse past w none ⟨tenant, name, none⟩
  | .insert (.supplier tenantId companyName) => ∀ tenant, uuidIn tenantId = some tenant →
      NotTakenSince Supplier past w none ⟨tenant, companyName, none⟩
  | .insert (.product tenantId _ skuPrefix) => ∀ tenant, uuidIn tenantId = some tenant →
      NotTakenSince Product past w none ⟨tenant, skuPrefix, none⟩
  | .save (.warehouse entity) _ => NotTakenSince Warehouse past w (some entity.id) entity.holder
  | .save (.supplier entity) _ => NotTakenSince Supplier past w (some entity.id) entity.holder
  | .save (.product entity) loaded =>
      (loaded.rowById Product entity.id).map Product.holder = some entity.holder
  | _ => True

instance (past : List World) (w : World) (label : Label) :
    Decidable (Uncontested past w label) := by
  unfold Uncontested
  split <;> infer_instance

/-- What the calls go by. -/
def namingTerms : Terms World Err Label where
  fault := dbFault
  cond := Uncontested
  good w := LiveNames w.db
  rely u w := Renamed u.db w.db
  refl w := .refl w.db
  holds := GivesFreeName

theorem lenient_naming : Lenient namingTerms := by
  intro w label quiet
  cases label <;> trivial

/-! ## From the check to the statement -/

section Cleared

variable {ρ : Type} [Named ρ] {past : List World} {w u : World} {i : Option Uuid} {h : Holder}

theorem nameFree_of_any {t : Table ρ} (none : t.rows.any (fun r =>
    (holder r).tenantId == h.tenantId && (holder r).name == h.name &&
      (holder r).deletedAt.isNone && i.all (· != Entity.id r)) = false) : NameFree t i h := by
  intro s mem live other same
  have away := List.any_eq_false.mp none s mem
  refine away ?_
  have apart : i.all (· != Entity.id s) = true := by
    cases i with
    | none => rfl
    | some i => simpa using other
  rw [Bool.and_eq_true, Bool.and_eq_true, Bool.and_eq_true, beq_iff_eq, beq_iff_eq,
    Option.isNone_iff_eq_none]
  exact ⟨⟨⟨same.1.symm, same.2.symm⟩, live⟩, apart⟩

/-- A name that nobody held is free as long as nobody takes it. -/
theorem NameFree.since (free : NameFree (table u.db : Table ρ) i h) (seen : u ∈ past)
    (since : NotTakenSince ρ past w i h) : NameFree (table w.db : Table ρ) i h := by
  intro s mem live other same
  obtain ⟨r, mem', id, live', same'⟩ := since s mem live other same u seen
  exact free r mem' live' (id ▸ other) same'

theorem NotTakenSince.of_append {later : List World}
    (since : NotTakenSince ρ (past ++ later) w i h) :
    NotTakenSince ρ past w i h := fun s mem live other same u seen =>
  since s mem live other same u (List.mem_append_left _ seen)

/-- A row of the table is the only holder of its name. -/
theorem NamesUnique.nameFree {t : Table ρ} {r : ρ} (unique : NamesUnique t) (mem : r ∈ t)
    (live : (holder r).live) (same : h.SameName (holder r)) :
    NameFree t (some (Entity.id r)) h := by
  intro s mem' live' other same'
  have one := unique r mem s mem' live live' ⟨same.1.symm.trans same'.1,
    same.2.symm.trans same'.2⟩
  exact other (congrArg (fun r => some (Entity.id r)) one)

/-- In one of the states the row was live and nobody else held the name that it gets. -/
structure Cleared (ρ : Type) [Named ρ] (past : List World) (i : Uuid) (h : Holder) : Prop where
  live : h.live
  found : ∃ u ∈ past, ∃ r ∈ (table u.db : Table ρ), Entity.id r = i ∧ (holder r).live ∧
    (holder r).tenantId = h.tenantId
  free : ∃ u ∈ past, NameFree (table u.db : Table ρ) (some i) h

theorem Cleared.saveFree {i : Uuid} (cleared : Cleared ρ past i h)
    (remain : ∀ u ∈ past, Remain (table u.db : Table ρ) (table w.db))
    (loaded : ∀ v ∈ past, Remain (table v.db : Table ρ) (table u.db))
    (since : NotTakenSince ρ past w (some i) h) :
    SaveFree (table w.db : Table ρ) i h (u.db.rowById ρ i) := by
  obtain ⟨v, seen, r₀, mem₀, rfl, live₀, tenant₀⟩ := cleared.found
  obtain ⟨u', seen', free⟩ := cleared.free
  have free := free.since seen' since
  obtain ⟨stored, mem, id, tenant, -⟩ := loaded v seen r₀ mem₀
  refine ⟨stored, id ▸ Database.rowById_of_mem mem, tenant₀.symm.trans tenant.symm,
    .inr cleared.live, ?_⟩
  intro r hr own _ renames s hs live other same
  obtain ⟨r', mem', id', tenant', live'⟩ := remain v seen r₀ mem₀
  obtain rfl : r' = r := Table.eq_of_id mem' hr (id'.trans own.symm)
  have owner : (h.merge (holder stored) (holder r')).tenantId = (holder r').tenantId := by
    change column _ _ _ = _
    rw [tenant.trans tenant₀]
    exact if_pos rfl
  -- the UPDATE sets the name, or else the row keeps its own
  have name : (h.merge (holder stored) (holder r')).name = h.name := by
    change column h.name _ _ = _
    unfold column
    split
    · rename_i kept
      refine absurd ⟨owner, ?_⟩ (renames (live' live₀))
      change column h.name _ _ = _
      rw [kept]
      exact if_pos rfl
    · rfl
  exact free s hs live other
    ⟨(tenant₀.symm.trans tenant'.symm).trans (owner.symm.trans same.1),
      name.symm.trans same.2⟩

end Cleared

/-! ## The calls -/

/-- A row that has been found has an id that is excluded from the check. -/
theorem excludeId_ok {id : String} {i : Uuid} (hi : uuidIn id = some i) :
    (if id = "" then none else some id : Option String).mapM uuidParam = .ok (some i) := by
  have given : id ≠ "" := by
    rintro rfl
    have none : uuidIn "" = Option.none := by decide
    exact nomatch none.symm.trans hi
  rw [if_neg given]
  change some <$> uuidParam id = _
  rw [uuidParam_eq_ok.mpr hi]
  rfl

/-- The call attests that it gives free names. -/
abbrev NamesFreely {α : Type} (p : Svc α) : Prop := p.Attests namingTerms (fun _ _ => True) []

section Services

variable {context : Option AuditContextData} {tenantId id : String} {past : List World}

/-- The check goes on where nobody has been found. -/
theorem attests_unlessTaken {exists_ : World → Except Err Bool} {taken : Err}
    {post : List World → Unit → Prop}
    (free : ∀ u, exists_ u = .ok false → post (past ++ [u]) ()) :
    (query exists_ >>= fun found => if found then throw taken else pure () : Svc Unit).Attests
      namingTerms post past := by
  refine attests_bind (attests_query lenient_naming fun u found _ looked => ?_)
  refine attests_ite (fun _ => attests_throw _) fun none => attests_pure (free u ?_)
  rw [Bool.not_eq_true] at none
  rw [looked, none]

theorem attests_inserted {ρ : Type} {row : NewRow} {act : World → Except Err (ρ × World)}
    {taken : Err} {input : ρ → AuditEventInput}
    (free : ∀ w, Meets namingTerms past w (.insert row) → GivesFreeName w (.insert row)) :
    (translated taken do
      let inserted ← statement (.insert row) act
      AuditService.record context (input inserted)
      pure inserted).Attests namingTerms (fun _ _ => True) past :=
  attests_translated _ (attests_bind (attests_statement fun w met => ⟨free w met, fun _ _ _ =>
    attests_bind ((attests_record lenient_naming _ _).mono fun _ _ _ => attests_pure trivial)⟩))

theorem attests_saved {ρ : Type} {entity : StoredObject}
    {act : Database → World → Except Err (ρ × World)} {taken : Err}
    {input : ρ → AuditEventInput}
    (free : ∀ u w, Meets namingTerms past u .query →
      Meets namingTerms (past ++ [u]) w (.save entity u.db) →
        GivesFreeName w (.save entity u.db)) :
    (translated taken do
      let saved ← saving entity act
      AuditService.record context (input saved)
      pure saved).Attests namingTerms (fun _ _ => True) past :=
  attests_translated _ (attests_bind (attests_saving lenient_naming fun u w met met' =>
    ⟨free u w met met', fun _ _ _ => attests_bind
      ((attests_record lenient_naming _ _).mono fun _ _ _ => attests_pure trivial)⟩))

namespace WarehouseService

theorem nameFree_of_exists {tenant : Uuid} {name : String} {excludeId : Option String} {u : World}
    (h : nameExists tenantId name excludeId u = .ok false) (ht : uuidIn tenantId = some tenant)
    {i : Option Uuid} (hi : excludeId.mapM uuidParam = .ok i) (deleted : Option Timestamp) :
    NameFree u.db.warehouses i ⟨tenant, name, deleted⟩ := by
  unfold nameExists at h
  rw [uuidParam_eq_ok.mpr ht, hi] at h
  exact nameFree_of_any (ρ := Warehouse) (Except.ok.inj h)

theorem create_namesFreely (dto : CreateWarehouseDto) :
    NamesFreely (create context tenantId dto) := by
  refine attests_bind (attests_unlessTaken fun u looked => attests_inserted fun w met => ?_)
  intro tenant ht
  exact (nameFree_of_exists looked ht rfl none).since (List.mem_append_right _ List.mem_cons_self)
    (met.cond tenant ht)

theorem attests_findOne {post : List World → Warehouse → Prop}
    (h : ∀ u row, Meets namingTerms past u .query → row ∈ u.db.warehouses →
      uuidIn tenantId = some row.tenantId → uuidIn id = some row.id → row.deletedAt = none →
        post (past ++ [u]) row) : (findOne tenantId id).Attests namingTerms post past := by
  refine attests_bind (attests_query lenient_naming fun u found met read => ?_)
  cases found with
  | none => exact attests_throw _
  | some row =>
      obtain ⟨tenant, ht, read⟩ := bind_eq_ok.mp read
      obtain ⟨i, hi, read⟩ := bind_eq_ok.mp read
      have found := Except.ok.inj read
      have passes := Table.holds_of_find? found
      simp only [Bool.and_eq_true, beq_iff_eq, Option.isNone_iff_eq_none] at passes
      obtain ⟨⟨rfl, rfl⟩, live⟩ := passes
      exact attests_pure (h u row met (Table.mem_of_find? found) (uuidParam_eq_ok.mp ht)
        (uuidParam_eq_ok.mp hi) live)

theorem update_namesFreely (dto : UpdateWarehouseDto) :
    NamesFreely (update context tenantId id dto) := by
  refine attests_bind (attests_findOne fun u₀ row met₀ mem ht hi live => ?_)
  have saved : ∀ past : List World, u₀ ∈ past →
      (∃ u ∈ past, NameFree u.db.warehouses (some row.id) (patched dto row).holder) →
      (translated nameTaken do
        let edited := patched dto row
        let saved ← saving (.warehouse edited) (saveLoaded edited)
        AuditService.record context (updateAudit row saved)
        pure saved).Attests namingTerms (fun _ _ => True) past := by
    intro past seen free
    refine attests_saved fun u w met met' => ?_
    have cleared : Cleared Warehouse past row.id (patched dto row).holder :=
      ⟨live, ⟨u₀, seen, row, mem, rfl, live, rfl⟩, free⟩
    exact cleared.saveFree (fun v seen => (met'.relied v (List.mem_append_left _ seen)).warehouses)
      (fun v seen => (met.relied v seen).warehouses) (NotTakenSince.of_append met'.cond)
  dsimp only
  cases named : dto.name.truthy with
  | none =>
      refine saved _ (List.mem_append_right _ List.mem_cons_self) ⟨u₀,
        List.mem_append_right _ List.mem_cons_self, ?_⟩
      exact met₀.good.warehouses.nameFree mem live ⟨rfl, by simp [patched, named, holder,
        Warehouse.holder]⟩
  | some name =>
      refine attests_bind (attests_unlessTaken fun u looked => ?_)
      refine saved _ (List.mem_append_left _ (List.mem_append_right _ List.mem_cons_self)) ⟨u,
        List.mem_append_right _ List.mem_cons_self, ?_⟩
      have free := nameFree_of_exists looked ht (excludeId_ok hi) row.deletedAt
      simpa [patched, named, Warehouse.holder] using free

end WarehouseService
namespace SupplierService

theorem nameFree_of_exists {tenant : Uuid} {name : String} {excludeId : Option String} {u : World}
    (h : nameExists tenantId name excludeId u = .ok false) (ht : uuidIn tenantId = some tenant)
    {i : Option Uuid} (hi : excludeId.mapM uuidParam = .ok i) (deleted : Option Timestamp) :
    NameFree u.db.suppliers i ⟨tenant, name, deleted⟩ := by
  unfold nameExists at h
  rw [uuidParam_eq_ok.mpr ht, hi] at h
  exact nameFree_of_any (ρ := Supplier) (Except.ok.inj h)

theorem create_namesFreely (dto : CreateSupplierDto) :
    NamesFreely (create context tenantId dto) := by
  refine attests_bind (attests_unlessTaken fun u looked => attests_inserted fun w met => ?_)
  intro tenant ht
  exact (nameFree_of_exists looked ht rfl none).since (List.mem_append_right _ List.mem_cons_self)
    (met.cond tenant ht)

theorem attests_findOne {post : List World → Supplier → Prop}
    (h : ∀ u row, Meets namingTerms past u .query → row ∈ u.db.suppliers →
      uuidIn tenantId = some row.tenantId → uuidIn id = some row.id → row.deletedAt = none →
        post (past ++ [u]) row) : (findOne tenantId id).Attests namingTerms post past := by
  refine attests_bind (attests_query lenient_naming fun u found met read => ?_)
  cases found with
  | none => exact attests_throw _
  | some row =>
      unfold readOne at read
      obtain ⟨tenant, ht, read⟩ := bind_eq_ok.mp read
      obtain ⟨i, hi, read⟩ := bind_eq_ok.mp read
      have found := Except.ok.inj read
      have passes := Table.holds_of_find? found
      simp only [Bool.and_eq_true, beq_iff_eq] at passes
      obtain ⟨⟨rfl, rfl⟩, live⟩ := passes
      exact attests_pure (h u row met (Table.mem_of_find? found) (uuidParam_eq_ok.mp ht)
        (uuidParam_eq_ok.mp hi) (Option.isNone_iff_eq_none.mp live))

theorem update_namesFreely (dto : UpdateSupplierDto) :
    NamesFreely (update context tenantId id dto) := by
  refine attests_bind (attests_findOne fun u₀ row met₀ mem ht hi live => ?_)
  have saved : ∀ past : List World, u₀ ∈ past →
      (∃ u ∈ past, NameFree u.db.suppliers (some row.id) (patched dto row).holder) →
      (translated nameTaken do
        let edited := patched dto row
        let saved ← saving (.supplier edited) (saveLoaded edited)
        AuditService.record context (updateAudit row saved)
        pure saved).Attests namingTerms (fun _ _ => True) past := by
    intro past seen free
    refine attests_saved fun u w met met' => ?_
    have cleared : Cleared Supplier past row.id (patched dto row).holder :=
      ⟨live, ⟨u₀, seen, row, mem, rfl, live, rfl⟩, free⟩
    exact cleared.saveFree (fun v seen => (met'.relied v (List.mem_append_left _ seen)).suppliers)
      (fun v seen => (met.relied v seen).suppliers) (NotTakenSince.of_append met'.cond)
  dsimp only
  cases named : dto.companyName.truthy with
  | none =>
      refine saved _ (List.mem_append_right _ List.mem_cons_self) ⟨u₀,
        List.mem_append_right _ List.mem_cons_self, ?_⟩
      exact met₀.good.suppliers.nameFree mem live ⟨rfl, by simp [patched, named, holder,
        Supplier.holder]⟩
  | some name =>
      refine attests_bind (attests_unlessTaken fun u looked => ?_)
      refine saved _ (List.mem_append_left _ (List.mem_append_right _ List.mem_cons_self)) ⟨u,
        List.mem_append_right _ List.mem_cons_self, ?_⟩
      have free := nameFree_of_exists looked ht (excludeId_ok hi) row.deletedAt
      simpa [patched, named, Supplier.holder] using free

end SupplierService
namespace CategoryService

/-- The category that a call looks up is read only. -/
theorem attests_findOne {T : Terms World Err Label} (lenient : Lenient T) (tenantId id : String) :
    (findOne tenantId id).Attests T (fun _ _ => True) past := by
  have look : (CacheService.get (CacheKeys.category tenantId id) Cached.category?).Attests T
      (fun _ _ => True) past := attests_command lenient rfl (fun _ _ => trivial) fun _ _ => trivial
  have read (past : List World) : (query (readOne tenantId id)).Attests T (fun _ _ => True) past :=
    attests_query lenient fun _ _ _ _ => trivial
  refine attests_bind (look.mono fun past cached _ => ?_)
  cases cached with
  | some cached => exact attests_pure trivial
  | none =>
      refine attests_bind ((read past).mono fun _ found _ => ?_)
      cases found with
      | none => exact attests_throw _
      | some result =>
          exact attests_bind (attests_command lenient rfl (fun _ _ => attests_pure trivial)
            fun _ _ => attests_pure trivial)

end CategoryService

namespace ProductService

theorem attests_findOne {T : Terms World Err Label} (lenient : Lenient T) (tenantId id : String) :
    (findOne tenantId id).Attests T (fun _ _ => True) past := by
  have look : (CacheService.get (CacheKeys.product tenantId id) Cached.product?).Attests T
      (fun _ _ => True) past := attests_command lenient rfl (fun _ _ => trivial) fun _ _ => trivial
  have read (past : List World) : (query (readOne tenantId id)).Attests T (fun _ _ => True) past :=
    attests_query lenient fun _ _ _ _ => trivial
  refine attests_bind (look.mono fun past cached _ => ?_)
  cases cached with
  | some cached => exact attests_pure trivial
  | none =>
      refine attests_bind ((read past).mono fun _ found _ => ?_)
      cases found with
      | none => exact attests_throw _
      | some result =>
          exact attests_bind (attests_command lenient rfl (fun _ _ => attests_pure trivial)
            fun _ _ => attests_pure trivial)

theorem create_namesFreely (dto : CreateProductDto) :
    NamesFreely (create context tenantId dto) := by
  refine attests_bind ((CategoryService.attests_findOne lenient_naming _ _).mono fun past _ _ => ?_)
  refine attests_bind (attests_unlessTaken fun u looked => ?_)
  refine attests_translated _ (attests_bind (attests_statement fun w met =>
    ⟨?_, fun _ _ _ => ?_⟩))
  · intro tenant ht
    have free : NameFree u.db.products none ⟨tenant, dto.skuPrefix, none⟩ := by
      unfold skuExists at looked
      rw [uuidParam_eq_ok.mpr ht] at looked
      refine nameFree_of_any (ρ := Product) ?_
      simpa [holder, Product.holder, Product.live] using looked
    exact free.since (List.mem_append_right _ List.mem_cons_self) (met.cond tenant ht)
  · refine attests_bind ((attests_record lenient_naming _ _).mono fun _ _ _ => ?_)
    exact attests_bind ((attests_delByPattern lenient_naming _).mono fun _ _ _ =>
      attests_pure trivial)

/-- An update of a copy that shows the stored SKU prefix leaves it. -/
theorem saveFree_of_copy {t : Table Product} {i : Uuid} {h : Holder} {stored : Option Product}
    (copy : stored.map Product.holder = some h) : SaveFree t i h stored := by
  obtain ⟨row, rfl, rfl⟩ := Option.map_eq_some_iff.mp copy
  have kept (r : Holder) : row.holder.merge row.holder r = r := by
    simp [Holder.merge, column]
  refine ⟨row, rfl, rfl, .inl rfl, fun r _ _ live renames => ?_⟩
  change (row.holder.merge row.holder (holder r)).live at live
  rw [kept] at live
  refine absurd ?_ (renames live)
  change (row.holder.merge row.holder (holder r)).SameName (holder r)
  rw [kept]
  exact ⟨rfl, rfl⟩

theorem update_namesFreely (dto : UpdateProductDto) :
    NamesFreely (update context tenantId id dto) := by
  refine attests_bind ((attests_findOne lenient_naming _ _).mono fun past product _ => ?_)
  refine attests_ite (fun _ => attests_throw _) fun _ => ?_
  have named : (dto.categoryId.truthy.mapM (CategoryService.findOne tenantId)).Attests
      namingTerms (fun _ _ => True) past := by
    cases dto.categoryId.truthy with
    | none => exact attests_pure trivial
    | some categoryId =>
        exact attests_map ((CategoryService.attests_findOne lenient_naming _ _).mono
          fun _ _ _ => trivial)
  refine attests_bind (named.mono fun past _ _ => attests_translated _ (attests_bind
    (attests_saving lenient_naming fun u w _ met =>
      ⟨saveFree_of_copy met.cond, fun _ _ _ => ?_⟩)))
  refine attests_bind ((attests_record lenient_naming _ _).mono fun _ _ _ => ?_)
  refine attests_bind ((attests_del lenient_naming _).mono fun _ _ _ => ?_)
  exact attests_bind ((attests_delByPattern lenient_naming _).mono fun _ _ _ =>
    attests_pure trivial)

end ProductService

end Services

/-! ## Interleavings -/

/-- A creation or an update of a service that looks for a holder of the name first. -/
inductive NamingCall
  | createWarehouse (tenantId : String) (dto : CreateWarehouseDto)
  | updateWarehouse (tenantId id : String) (dto : UpdateWarehouseDto)
  | createSupplier (tenantId : String) (dto : CreateSupplierDto)
  | updateSupplier (tenantId id : String) (dto : UpdateSupplierDto)
  | createProduct (tenantId : String) (dto : CreateProductDto)
  | updateProduct (tenantId id : String) (dto : UpdateProductDto)

/-- The call as a request with this audit context makes it; its answer is not looked at. -/
def NamingCall.program (context : Option AuditContextData) : NamingCall → Svc Unit
  | createWarehouse tenantId dto => discard <| WarehouseService.create context tenantId dto
  | updateWarehouse tenantId id dto => discard <| WarehouseService.update context tenantId id dto
  | createSupplier tenantId dto => discard <| SupplierService.create context tenantId dto
  | updateSupplier tenantId id dto => discard <| SupplierService.update context tenantId id dto
  | createProduct tenantId dto => discard <| ProductService.create context tenantId dto
  | updateProduct tenantId id dto => discard <| ProductService.update context tenantId id dto

theorem NamingCall.keepsNames (context : Option AuditContextData) (call : NamingCall) :
    KeepsNames (call.program context) := by
  intro db
  cases call with
  | createWarehouse tenantId dto => exact keeps_map _ (WarehouseService.create_names dto db)
  | updateWarehouse tenantId id dto => exact keeps_map _ (WarehouseService.update_names dto db)
  | createSupplier tenantId dto => exact keeps_map _ (SupplierService.create_names dto db)
  | updateSupplier tenantId id dto => exact keeps_map _ (SupplierService.update_names dto db)
  | createProduct tenantId dto => exact keeps_map _ (ProductService.create_names dto db)
  | updateProduct tenantId id dto => exact keeps_map _ (ProductService.update_names dto db)

theorem NamingCall.namesFreely (context : Option AuditContextData) (call : NamingCall) :
    NamesFreely (call.program context) := by
  cases call with
  | createWarehouse tenantId dto => exact attests_map (WarehouseService.create_namesFreely dto)
  | updateWarehouse tenantId id dto => exact attests_map (WarehouseService.update_namesFreely dto)
  | createSupplier tenantId dto => exact attests_map (SupplierService.create_namesFreely dto)
  | updateSupplier tenantId id dto => exact attests_map (SupplierService.update_namesFreely dto)
  | createProduct tenantId dto => exact attests_map (ProductService.create_namesFreely dto)
  | updateProduct tenantId id dto => exact attests_map (ProductService.update_namesFreely dto)

/-- Calls with their audit contexts, none of which has begun. -/
def namingPool {ι : Type} (calls : ι → Option AuditContextData × NamingCall) (w : World) :
    Pool World Err Label ι (Except Err Unit) :=
  ⟨w, fun i => ((calls i).2.program (calls i).1).run⟩

/-- However many creations and updates interleave: as long as nobody takes a name between the
statements of a call that gives it to a row, no two live rows of a tenant hold one name. -/
theorem live_names_unique {ι : Type} [DecidableEq ι]
    (calls : ι → Option AuditContextData × NamingCall) (w : World) (names : LiveNames w.db)
    (past : ι → List World) (c : Pool World Err Label ι (Except Err Unit))
    (run : Pool.Traced dbFault Uncontested (namingPool calls w) past c) : LiveNames c.state.db := by
  have start : (namingPool calls w).Attesting namingTerms fun _ => [] := {
    state := names
    relied := fun _ _ seen => nomatch seen
    keeps := fun i => Prog.guarded_of_steps (R := fun u v : World => Renamed u.db v.db)
      (fun u => .refl u.db) (fun step names => step.names names)
      fun u => (calls i).2.keepsNames (calls i).1 u.db
    relies := fun u i => (calls i).2.keepsNames (calls i).1 u.db
    attests := fun i => Prog.Attests.mono ((calls i).2.namesFreely (calls i).1)
      fun _ _ _ => trivial }
  exact (Pool.attesting_traced start run).2.state

namespace SampleShop

def naming (call : NamingCall) : Option AuditContextData × NamingCall := (some context, call)

/-- A new warehouse while another one gets a new name. -/
def newAndRenamed : Fin 2 → Option AuditContextData × NamingCall
  | 0 => naming (.createWarehouse (uuidOut tenantId) ⟨"North", .undefined⟩)
  | 1 => naming (.updateWarehouse (uuidOut tenantId) (uuidOut warehouseId)
      ⟨.value "South", .undefined⟩)

/-- One warehouse, created twice. -/
def createdTwice : Fin 2 → Option AuditContextData × NamingCall :=
  fun _ => naming (.createWarehouse (uuidOut tenantId) ⟨"North", .undefined⟩)

def warehouseNames (c : Pool World Err Label (Fin 2) (Except Err Unit)) : List String :=
  c.state.db.warehouses.rows.map Warehouse.name

theorem renamed_meanwhile : (Pool.scheduleTraced
    (fun past w label => decide (Uncontested past w label)) (fun _ => [])
      (namingPool newAndRenamed (world unstocked)) [0, 1, 1, 0, 1, 1, 0, 1]).map
        warehouseNames = some ["South", "North"] := by decide

/-- Both calls look for a holder of the name before either of them inserts it. -/
theorem checked_at_once : ((namingPool createdTwice (world unstocked)).schedule
      (fun _ _ _ => true) [0, 1, 0, 1]).map
        (fun c => decide (NamesUnique c.state.db.warehouses)) = some false := by decide

end SampleShop

theorem live_names_unique_renamed : ∃ past c, Pool.Traced dbFault Uncontested
    (namingPool SampleShop.newAndRenamed (SampleShop.world SampleShop.unstocked)) past c ∧
    SampleShop.warehouseNames c = ["South", "North"] ∧ LiveNames c.state.db := by
  obtain ⟨past, c, run, seen⟩ := Pool.exists_of_scheduleTraced SampleShop.renamed_meanwhile
  have met : Pool.Traced dbFault Uncontested _ past c := run.mono fun _ _ _ => of_decide_eq_true
  exact ⟨past, c, met, seen, live_names_unique _ _
    ⟨by decide, by decide, by decide⟩ past c met⟩

/-- Two live warehouses of one name: nothing but the first look at the table is in the
way of the second INSERT. -/
theorem warehouse_created_twice : ∃ c, Pool.Reach dbFault (fun _ _ _ => True)
    (namingPool SampleShop.createdTwice (SampleShop.world SampleShop.unstocked)) c ∧
      LiveNames (SampleShop.world SampleShop.unstocked).db ∧ ¬ LiveNames c.state.db := by
  obtain ⟨c, run, seen⟩ := Pool.exists_of_schedule SampleShop.checked_at_once
  exact ⟨c, run.mono fun _ _ _ _ => trivial, ⟨by decide, by decide, by decide⟩,
    fun names => of_decide_eq_false seen names.warehouses⟩
end Tenantory
