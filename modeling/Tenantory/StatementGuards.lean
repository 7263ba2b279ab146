import Tenantory.ProductService
import Tenantory.SerialRuns
import Tenantory.StoredRows
import Tenantory.SupplierService
import Tenantory.TenantService
import Tenantory.VariantService
import Tenantory.WarehouseService

/-! What the statements and commands of a service keep, between whatever those of others
do. Where it is about the tables, only a statement that writes has to be looked at. -/

namespace Tenantory

namespace Svc

variable {α β : Type} {cond : World → Label → Prop} {Inv : World → Prop}
  {I : Database → Prop}

/-- Every statement and command of the service keeps `Inv` where `cond` admits it. -/
def Keeps (cond : World → Label → Prop) (Inv : World → Prop) (p : Svc α) : Prop :=
  p.run.Guarded cond Inv

theorem keeps_pure (a : α) : Keeps cond Inv (pure a : Svc α) := trivial

theorem keeps_throw (e : Err) : Keeps cond Inv (throw e : Svc α) := trivial

theorem keeps_bind {p : Svc α} {f : α → Svc β} (hp : Keeps cond Inv p)
    (hf : ∀ a, Keeps cond Inv (f a)) : Keeps cond Inv (p >>= f) := by
  unfold Keeps
  rw [run_bind]
  refine Prog.guarded_bind hp fun r => ?_
  cases r with
  | ok a => exact hf a
  | error e => trivial

theorem keeps_map {p : Svc α} (f : α → β) (hp : Keeps cond Inv p) :
    Keeps cond Inv (f <$> p) := by
  rw [map_eq_pure_bind]
  exact keeps_bind hp fun a => keeps_pure (f a)

theorem keeps_ite {p q : Svc α} {c : Prop} [Decidable c] (hp : Keeps cond Inv p)
    (hq : Keeps cond Inv q) : Keeps cond Inv (if c then p else q) := by
  split
  · exact hp
  · exact hq

theorem keeps_tryCatch {p : Svc α} {handle : Err → Svc α} (hp : Keeps cond Inv p)
    (hh : ∀ e, Keeps cond Inv (handle e)) : Keeps cond Inv (tryCatch p handle) := by
  unfold Keeps
  rw [run_tryCatch]
  refine Prog.guarded_bind hp fun r => ?_
  cases r with
  | ok a => trivial
  | error e => exact hh e

theorem keeps_translated {p : Svc α} (taken : Err) (hp : Keeps cond Inv p) :
    Keeps cond Inv (translated taken p) :=
  keeps_tryCatch hp fun e => keeps_ite (keeps_throw taken) (keeps_throw e)

theorem keeps_query (read : World → Except Err α) : Keeps cond Inv (query read) :=
  ⟨fun _ inv _ => inv, fun _ => trivial⟩

theorem keeps_get (key : String) (read : Cached → Option α) :
    Keeps cond Inv (CacheService.get key read) :=
  ⟨fun _ inv _ => inv, fun _ => trivial⟩

/-- A statement that writes, where its label is admitted. -/
theorem keeps_statement {label : Label} {act : World → Except Err (α × World)}
    (h : ∀ w a w', Inv w → cond w label → act w = .ok (a, w') → Inv w') :
    Keeps cond Inv (statement label act) := by
  refine ⟨fun w inv met => ?_, fun _ => trivial⟩
  dsimp only
  cases written : act w with
  | error e => exact inv
  | ok answer => exact h w answer.1 answer.2 inv met written

theorem keeps_saving {entity : StoredObject} {act : Database → World → Except Err (α × World)}
    (h : ∀ loaded w a w', Inv w → cond w (.save entity loaded) →
      act loaded w = .ok (a, w') →
      Inv w') : Keeps cond Inv (saving entity act) :=
  keeps_bind (keeps_query _) fun loaded => keeps_statement (h loaded)

theorem keeps_softRemoving {entity : StoredObject}
    {act : Database → World → Except Err (α × World)}
    (h : ∀ loaded w a w', Inv w → cond w (.softRemove entity loaded) →
      act loaded w = .ok (a, w') → Inv w') : Keeps cond Inv (softRemoving entity act) :=
  keeps_bind (keeps_query _) fun loaded => keeps_statement (h loaded)

/-- Run by itself, the service keeps what each of its statements and commands keeps. -/
theorem Keeps.runs {p : Svc α} (h : Keeps (fun _ _ => True) Inv p) {w : World} (inv : Inv w) :
    Inv (p.runs w).2 :=
  Prog.guarded_run h inv

/-! ## What keeps the tables as they are -/

/-- A fact about the tables. -/
abbrev KeepsTables (cond : World → Label → Prop) (I : Database → Prop) (p : Svc α) : Prop :=
  Keeps cond (fun w => I w.db) p

theorem keeps_listing (read : (Uuid → ℕ) → World → Except Err α) :
    KeepsTables cond I (listing read) :=
  ⟨fun _ inv _ => inv, fun _ => trivial⟩

theorem keeps_set (key : String) (value : Cached) :
    KeepsTables cond I (CacheService.set key value) :=
  ⟨fun _ inv _ => inv, fun _ => trivial⟩

theorem keeps_del (key : String) : KeepsTables cond I (CacheService.del key) :=
  ⟨fun _ inv _ => inv, fun _ => trivial⟩

theorem keeps_delByPattern (pattern : String) :
    KeepsTables cond I (CacheService.delByPattern pattern) :=
  ⟨fun _ inv _ => inv, fun _ => trivial⟩

theorem keeps_record (context : Option AuditContextData) (input : AuditEventInput) :
    KeepsTables cond I (AuditService.record context input) := by
  unfold AuditService.record
  split
  · exact ⟨fun _ inv _ => inv, fun _ => trivial⟩
  · exact keeps_throw _

/-! ## Writes that are made up for -/

/-- The service restores `Inv` before it returns; `owes` says that it has broken it. -/
def Restores (cond : World → Label → Prop) (Inv : World → Prop) (p : Svc α) (owes : Bool) :
    Prop :=
  p.run.Restores dbFault cond Inv owes

theorem restores_of_keeps {p : Svc α} (h : Keeps cond Inv p) : Restores cond Inv p false :=
  Prog.restores_of_guarded h

theorem restores_bind {p : Svc α} {f : α → Svc β} (hp : Keeps cond Inv p)
    (hf : ∀ a, Restores cond Inv (f a) false) : Restores cond Inv (p >>= f) false := by
  unfold Restores
  rw [run_bind]
  refine Prog.restores_bind (Prog.restores_of_guarded hp) fun r => ?_
  cases r with
  | ok a => exact hf a
  | error e => rfl

theorem restores_map {p : Svc α} (f : α → β) (h : Restores cond Inv p false) :
    Restores cond Inv (f <$> p) false := by
  unfold Restores
  rw [map_eq_pure_bind, run_bind]
  refine Prog.restores_bind h fun r => ?_
  cases r with
  | ok a => rfl
  | error e => rfl

theorem restores_translated {p : Svc α} (taken : Err) (h : Restores cond Inv p false) :
    Restores cond Inv (translated taken p) false := by
  unfold Restores translated
  rw [run_tryCatch]
  refine Prog.restores_bind h fun r => ?_
  cases r with
  | ok a => rfl
  | error e => exact restores_of_keeps (keeps_ite (keeps_throw taken) (keeps_throw e))

theorem restores_ite {p q : Svc α} {c : Prop} [Decidable c] (hp : Restores cond Inv p false)
    (hq : Restores cond Inv q false) : Restores cond Inv (if c then p else q) false := by
  split
  · exact hp
  · exact hq

/-- What follows a statement makes up for it. -/
theorem restores_statement {label : Label} {act : World → Except Err (α × World)}
    {f : α → Svc β}
    (rest : ∀ a, Restores cond Inv (f a) true) :
    Restores cond Inv (statement label act >>= f) false := by
  unfold Restores
  rw [run_bind]
  refine ⟨fun w _ => ?_, fun e _ => rfl⟩
  cases written : act w with
  | ok answer =>
      refine ⟨true, ?_, fun settled => nomatch settled⟩
      have rest := rest answer.1
      unfold Restores at rest
      simpa only [written, Prog.ret_bind, next_ok] using rest
  | error e =>
      refine ⟨false, ?_, fun _ inv => ?_⟩
      · simp only [written, Prog.ret_bind, next_error]
        rfl
      · simpa only [written] using inv rfl

theorem restores_saving {entity : StoredObject}
    {act : Database → World → Except Err (α × World)}
    {f : α → Svc β} (rest : ∀ a, Restores cond Inv (f a) true) :
    Restores cond Inv (saving entity act >>= f) false := by
  unfold saving
  rw [bind_assoc]
  exact restores_bind (keeps_query _) fun loaded => restores_statement rest

theorem restores_softRemoving {entity : StoredObject}
    {act : Database → World → Except Err (α × World)} {f : α → Svc β}
    (rest : ∀ a, Restores cond Inv (f a) true) :
    Restores cond Inv (softRemoving entity act >>= f) false := by
  unfold softRemoving
  rw [bind_assoc]
  exact restores_bind (keeps_query _) fun loaded => restores_statement rest

/-- An audit event that has its tenant does not keep the service from going on. -/
theorem restores_record {context : Option AuditContextData}
    (audited : AuditService.Audited context) (input : AuditEventInput) {f : Unit → Svc β}
    (rest : Restores cond Inv (f ()) true) :
    Restores cond Inv (AuditService.record context input >>= f) true := by
  obtain ⟨event, recorded⟩ := AuditService.event?_of_audited audited input
  unfold Restores AuditService.record
  rw [recorded, run_bind]
  exact ⟨fun w _ => ⟨true, rest, fun settled => nomatch settled⟩,
    fun e faulty => faulty.elim⟩

theorem restores_del {key : String} {f : Unit → Svc β}
    (restored : ∀ w : World, Inv (w.deleteKeys (· == key)))
    (rest : Restores cond Inv (f ()) false) :
    Restores cond Inv (CacheService.del key >>= f) true := by
  unfold Restores
  rw [run_bind]
  exact ⟨fun w _ => ⟨false, rest, fun _ _ => restored w⟩, fun e faulty => faulty.elim⟩

end Svc

open Svc

variable {cond : World → Label → Prop} {Inv : World → Prop}

theorem CategoryService.keeps_findOne (sets : ∀ key value,
    Keeps cond Inv (CacheService.set key value))
    (tenantId id : String) : Keeps cond Inv (CategoryService.findOne tenantId id) := by
  refine keeps_bind (keeps_get _ _) fun cached => ?_
  cases cached with
  | some cached => exact keeps_pure _
  | none =>
      refine keeps_bind (keeps_query _) fun found => ?_
      cases found with
      | none => exact keeps_throw _
      | some category => exact keeps_bind (sets _ _) fun _ => keeps_pure _

theorem CategoryService.keeps_invalidate
    (dels : ∀ pattern, Keeps cond Inv (CacheService.delByPattern pattern)) (tenantId : String) :
    Keeps cond Inv (CategoryService.invalidateCollections tenantId) :=
  keeps_bind (dels _) fun _ => dels _

theorem CategoryService.keeps_assertSlugUnique (tenantId slug : String)
    (excludeId : Option String) :
    Keeps cond Inv (CategoryService.assertSlugUnique tenantId slug excludeId) :=
  keeps_bind (keeps_query _) fun _ => keeps_ite (keeps_throw _) (keeps_pure _)

theorem CategoryService.keeps_assertParentExists (tenantId parentId : String) :
    Keeps cond Inv (CategoryService.assertParentExists tenantId parentId) := by
  refine keeps_bind (keeps_query _) fun found => ?_
  cases found with
  | none => exact keeps_throw _
  | some parent => exact keeps_pure _

theorem CategoryService.keeps_chooseParent (tenantId id : String) (parentId : Property String)
    (current : Option (Option CategoryColumns)) :
    Keeps cond Inv (CategoryService.chooseParent tenantId id parentId current) := by
  cases parentId with
  | undefined => exact keeps_pure _
  | null => exact keeps_pure _
  | value parentId =>
      exact keeps_ite (keeps_throw _) (keeps_ite (keeps_pure _)
        (keeps_bind (CategoryService.keeps_assertParentExists tenantId parentId) fun _ =>
          keeps_pure _))

theorem ProductService.keeps_findOne (sets : ∀ key value,
    Keeps cond Inv (CacheService.set key value))
    (tenantId id : String) : Keeps cond Inv (ProductService.findOne tenantId id) := by
  refine keeps_bind (keeps_get _ _) fun cached => ?_
  cases cached with
  | some cached => exact keeps_pure _
  | none =>
      refine keeps_bind (keeps_query _) fun found => ?_
      cases found with
      | none => exact keeps_throw _
      | some product => exact keeps_bind (sets _ _) fun _ => keeps_pure _

/-- Looking up the category that an update names. -/
theorem ProductService.keeps_named (sets : ∀ key value,
    Keeps cond Inv (CacheService.set key value))
    (tenantId : String) (dto : UpdateProductDto) :
    Keeps cond Inv (dto.categoryId.truthy.mapM (CategoryService.findOne tenantId)) := by
  cases dto.categoryId.truthy with
  | none => exact keeps_pure _
  | some category => exact keeps_map _ (CategoryService.keeps_findOne sets _ _)

theorem VariantService.keeps_findProduct (tenantId productId : String) :
    Keeps cond Inv (VariantService.findProduct tenantId productId) := by
  refine keeps_bind (keeps_query _) fun found => ?_
  cases found with
  | none => exact keeps_throw _
  | some product => exact keeps_pure _

theorem VariantService.keeps_findOne (tenantId productId variantId : String) :
    Keeps cond Inv (VariantService.findOne tenantId productId variantId) := by
  refine keeps_bind (keeps_query _) fun found => ?_
  cases found with
  | none => exact keeps_throw _
  | some variant => exact keeps_pure _

theorem VariantService.keeps_assertSkuUniqueness (tenantId sku : String)
    (excludeId : Option String) :
    Keeps cond Inv (VariantService.assertSkuUniqueness tenantId sku excludeId) :=
  keeps_bind (keeps_query _) fun _ => keeps_ite (keeps_throw _) (keeps_pure _)

theorem WarehouseService.keeps_findOne (tenantId id : String) :
    Keeps cond Inv (WarehouseService.findOne tenantId id) := by
  refine keeps_bind (keeps_query _) fun found => ?_
  cases found with
  | none => exact keeps_throw _
  | some warehouse => exact keeps_pure _

theorem WarehouseService.keeps_assertNameUnique (tenantId name : String)
    (excludeId : Option String) :
    Keeps cond Inv (WarehouseService.assertNameUnique tenantId name excludeId) :=
  keeps_bind (keeps_query _) fun _ => keeps_ite (keeps_throw _) (keeps_pure _)

theorem SupplierService.keeps_findOne (tenantId id : String) :
    Keeps cond Inv (SupplierService.findOne tenantId id) := by
  refine keeps_bind (keeps_query _) fun found => ?_
  cases found with
  | none => exact keeps_throw _
  | some supplier => exact keeps_pure _

theorem SupplierService.keeps_assertCompanyNameUnique (tenantId name : String)
    (excludeId : Option String) :
    Keeps cond Inv (SupplierService.assertCompanyNameUnique tenantId name excludeId) :=
  keeps_bind (keeps_query _) fun _ => keeps_ite (keeps_throw _) (keeps_pure _)

theorem TenantService.keeps_findOne (id : String) :
    Keeps cond Inv (TenantService.findOne id) := by
  refine keeps_bind (keeps_query _) fun found => ?_
  cases found with
  | none => exact keeps_throw _
  | some tenant => exact keeps_pure _

end Tenantory
