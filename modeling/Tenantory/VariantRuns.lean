import Tenantory.ProductRuns
import Tenantory.VariantService

/-! The operations on variants, each run by itself. They know no cache. -/

namespace Tenantory
namespace VariantService

open Svc

variable {context : Option AuditContextData} {tenantId productId variantId : String}
  {w w' : World}

/-- What follows the statement that wrote a variant. -/
def recorded (context : Option AuditContextData) (input : AuditEventInput) (w : World) :
    Option World :=
  (AuditService.event? context input).map fun event =>
    { w with journal := w.journal ++ [.auditLog event] }

theorem recorded_db {input : AuditEventInput} (h : recorded context input w = some w') :
    w'.db = w.db ∧ w'.cache = w.cache := by
  unfold recorded at h
  cases he : AuditService.event? context input with
  | none => simp [he] at h
  | some event =>
      rw [he] at h
      cases h
      exact ⟨rfl, rfl⟩

/-- A found row, or the error of the finder. -/
theorem runs_found {α : Type} {read : World → Except Err (Option α)} {missing : Err}
    {answer : Option α → Svc α} (present : ∀ row, answer (some row) = pure row)
    (absent : answer none = throw missing) (w : World) :
    (query read >>= answer).runs w = (orMissing missing (read w), w) := by
  rw [runs_bind, runs_query]
  cases read w with
  | error e => rfl
  | ok found =>
      cases found with
      | none => rw [follow_ok, absent]; rfl
      | some row => rw [follow_ok, present]; rfl

theorem runs_findProduct (tenantId productId : String) (w : World) :
    (findProduct tenantId productId).runs w =
      (orMissing (.notFound s!"There is no product in this tenant with this ID: {productId}")
        (readProduct tenantId productId w), w) :=
  runs_found (fun _ => rfl) rfl w

theorem runs_findOne (tenantId productId variantId : String) (w : World) :
    (findOne tenantId productId variantId).runs w =
      (orMissing (.notFound s!"There is no product variant with ID: {variantId}")
        (readOne tenantId productId variantId w), w) :=
  runs_found (fun _ => rfl) rfl w

/-- A checked key, or the conflict. -/
theorem runs_checked (read : World → Except Err Bool) (taken : Err) (w : World) :
    (do let exist ← query read
        if exist then throw taken : Svc Unit).runs w =
      ((read w).bind fun exist => if exist then .error taken else .ok (), w) := by
  rw [runs_bind, runs_query]
  cases read w with
  | error e => rfl
  | ok exist => cases exist <;> rfl

/-! ## Creations -/

/-- The statements of a creation. -/
structure Creates (tenantId productId : String) (dto : CreateVariantDto) (w : World)
    (product : Product) (saved : ProductVariant) (w₁ : World) : Prop where
  finds : readProduct tenantId productId w = .ok (some product)
  free : skuExists tenantId dto.sku none w = .ok false
  inserts : insert tenantId productId dto w = .ok (saved, w₁)

def createAudit (productId : String) (saved : ProductVariant) : AuditEventInput where
  action := .create
  entityType := .productVariant
  entityId := UuidText.uuidOut saved.id
  oldValues := none
  newValues := some (.obj [("sku", .str saved.sku), ("price", .num saved.price),
    ("productId", .str productId)])
  metadata := none
  actorId := none

theorem create_cases (context : Option AuditContextData) (tenantId productId : String)
    (dto : CreateVariantDto) (w : World) :
    let out := (create context tenantId productId dto).runs w
    ((∃ e, out.1 = .error e) ∧ out.2 = w) ∨
      ∃ product saved w₁, Creates tenantId productId dto w product saved w₁ ∧
        Ends out saved w₁ (recorded context (createAudit productId saved) w₁) := by
  intro out
  have stop : ∀ e, out = (.error e, w) → (∃ e, out.1 = .error e) ∧ out.2 = w :=
    fun e h => ⟨⟨e, by rw [h]⟩, by rw [h]⟩
  have started : out = follow (fun _ => do
      assertSkuUniqueness tenantId dto.sku none
      translated skuTaken do
        let saved ← statement (.insert (.variant tenantId productId dto.sku))
          (insert tenantId productId dto)
        AuditService.record context (createAudit productId saved)
        pure saved) ((findProduct tenantId productId).runs w) := by
    rw [← runs_bind]
    rfl
  rw [runs_findProduct] at started
  cases hf : readProduct tenantId productId w with
  | error e => exact .inl (stop e (by rw [started, hf]; rfl))
  | ok found =>
      rw [hf] at started
      cases found with
      | none => exact .inl (stop _ started)
      | some product =>
          simp only [orMissing, follow_ok, runs_bind, assertSkuUniqueness, runs_query] at started
          cases hs : skuExists tenantId dto.sku none w with
          | error e => exact .inl (stop e (by rw [started, hs]; rfl))
          | ok taken =>
              rw [hs] at started
              cases taken with
              | true => exact .inl (stop _ started)
              | false =>
                  simp only [follow_ok, Bool.false_eq_true, if_false, runs_pure, runs_translated,
                    runs_bind, runs_statement] at started
                  cases hv : insert tenantId productId dto w with
                  | error e => exact .inl (stop (reported skuTaken e) (by rw [started, hv]; rfl))
                  | ok answer =>
                      obtain ⟨saved, w₁⟩ := answer
                      refine .inr ⟨product, saved, w₁, ⟨hf, hs, hv⟩, ?_⟩
                      rw [hv, settle_ok, follow_ok, runs_bind, runs_record]
                        at started
                      unfold recorded
                      cases he : AuditService.event? context (createAudit productId saved) with
                      | none =>
                          rw [he] at started
                          exact .unaudited started
                      | some event =>
                          rw [he] at started
                          exact .done started

/-- A creation that makes its statements and has a tenant for its audit answers. -/
theorem create_answers {dto : CreateVariantDto} {product : Product} {saved : ProductVariant}
    {w₁ : World} (steps : Creates tenantId productId dto w product saved w₁)
    (audited : AuditService.Audited context) :
    ((create context tenantId productId dto).runs w).1 = .ok saved := by
  have started : (create context tenantId productId dto).runs w = follow (fun _ => do
      assertSkuUniqueness tenantId dto.sku none
      translated skuTaken do
        let saved ← statement (.insert (.variant tenantId productId dto.sku))
          (insert tenantId productId dto)
        AuditService.record context (createAudit productId saved)
        pure saved) ((findProduct tenantId productId).runs w) := by
    rw [← runs_bind]
    rfl
  obtain ⟨event, recorded⟩ :=
    AuditService.event?_of_audited audited (createAudit productId saved)
  rw [started, runs_findProduct, steps.finds]
  simp only [orMissing, follow_ok, runs_bind, assertSkuUniqueness, runs_query, steps.free,
    Bool.false_eq_true, if_false, runs_pure, runs_translated, runs_statement, steps.inserts,
    settle_ok, runs_record, recorded]
  rfl

/-! ## Updates and removals -/

/-- `save` with nothing between its SELECT and what it writes. -/
def save (draft : Draft) (w : World) : Except Err (ProductVariant × World) :=
  saveLoaded draft w.db w

theorem save_eq (draft : Draft) (w : World) :
    save draft w = (match w.db.rowById ProductVariant draft.entity.id with
      | none => .error .notNullViolation
      | some stored => do
          let row ← overwrite draft w.clock stored
          let w₁ ← w.update draft.entity.id fun _ : ProductVariant => row
          pure (row, w₁)) := by
  unfold save saveLoaded
  cases found : w.db.rowById ProductVariant draft.entity.id with
  | none => rfl
  | some stored =>
      obtain ⟨mem, same⟩ := Database.rowById_eq_some found
      have merged : ∀ row : ProductVariant, w.update draft.entity.id (merge row stored) =
          w.update draft.entity.id fun _ => row := by
        refine fun row => World.update_congr fun r hr hi => ?_
        obtain rfl := Table.eq_of_id hr mem (hi.trans same.symm)
        exact merge_self _ _
      simp only [merged]

/-- The statements of an update. -/
structure Updates (tenantId productId variantId : String) (dto : UpdateVariantDto) (w : World)
    (variant saved : ProductVariant) (w₁ : World) : Prop where
  finds : readOne tenantId productId variantId w = .ok (some variant)
  free : ∀ sku, dto.sku.truthy = some sku → sku ≠ variant.sku →
    skuExists tenantId sku (if variantId = "" then none else some variantId) w = .ok false
  saves : save (patched dto variant) w = .ok (saved, w₁)

/-- The check of an update that brings another sku. -/
def checkedSku (tenantId variantId : String) (dto : UpdateVariantDto) (variant : ProductVariant) :
    Svc Unit :=
  match dto.sku.truthy with
  | some sku =>
      if sku != variant.sku then
        assertSkuUniqueness tenantId sku (if variantId = "" then none else some variantId)
      else pure ()
  | none => pure ()

theorem checkedSku_cases (dto : UpdateVariantDto) (variant : ProductVariant) (w : World) :
    (∃ e, (checkedSku tenantId variantId dto variant).runs w = (.error e, w)) ∨
      (checkedSku tenantId variantId dto variant).runs w = (.ok (), w) ∧
        ∀ sku, dto.sku.truthy = some sku → sku ≠ variant.sku →
          skuExists tenantId sku (if variantId = "" then none else some variantId) w =
            .ok false := by
  unfold checkedSku
  cases dto.sku.truthy with
  | none => exact .inr ⟨rfl, fun sku h => (nomatch h)⟩
  | some sku =>
      by_cases other : sku = variant.sku
      · refine .inr ⟨by simp [other], fun _ h differs => ?_⟩
        cases h
        exact absurd other differs
      · simp only [bne_iff_ne, ne_eq, other, not_false_eq_true, if_true, assertSkuUniqueness,
          runs_checked]
        cases hs : skuExists tenantId sku (if variantId = "" then none else some variantId) w with
        | error e => exact .inl ⟨e, rfl⟩
        | ok taken =>
            cases taken with
            | true => exact .inl ⟨_, rfl⟩
            | false =>
                refine .inr ⟨rfl, fun _ h _ => ?_⟩
                cases h
                exact hs

theorem runs_update (context : Option AuditContextData) (tenantId productId variantId : String)
    (dto : UpdateVariantDto) (w : World) :
    (update context tenantId productId variantId dto).runs w =
      follow (fun variant => checkedSku tenantId variantId dto variant >>= fun _ =>
        translated skuTaken do
          let saved ← saving (.variant (patched dto variant).entity)
            (saveLoaded (patched dto variant))
          AuditService.record context (updateAudit variant saved)
          pure saved) ((findOne tenantId productId variantId).runs w) := by
  rw [← runs_bind]
  unfold update
  congr 2
  funext variant
  unfold checkedSku
  cases dto.sku.truthy with
  | none => rfl
  | some sku =>
      dsimp only
      split <;> rfl

theorem update_cases (context : Option AuditContextData) (tenantId productId variantId : String)
    (dto : UpdateVariantDto) (w : World) :
    let out := (update context tenantId productId variantId dto).runs w
    ((∃ e, out.1 = .error e) ∧ out.2 = w) ∨
      ∃ variant saved w₁, Updates tenantId productId variantId dto w variant saved w₁ ∧
        Ends out saved w₁ (recorded context (updateAudit variant saved) w₁) := by
  intro out
  have stop : ∀ e, out = (.error e, w) → (∃ e, out.1 = .error e) ∧ out.2 = w :=
    fun e h => ⟨⟨e, by rw [h]⟩, by rw [h]⟩
  have started := runs_update context tenantId productId variantId dto w
  change out = _ at started
  rw [runs_findOne] at started
  cases hf : readOne tenantId productId variantId w with
  | error e => exact .inl (stop e (by rw [started, hf]; rfl))
  | ok found =>
      rw [hf] at started
      cases found with
      | none => exact .inl (stop _ started)
      | some variant =>
          simp only [orMissing, follow_ok, runs_bind] at started
          rcases checkedSku_cases dto variant w with
            ⟨e, failed⟩ | ⟨passed, free⟩
          · exact .inl (stop e (by rw [started, failed]; rfl))
          · simp only [passed, follow_ok, runs_translated, runs_bind, runs_saving] at started
            cases hv : saveLoaded (patched dto variant) w.db w with
            | error e => exact .inl (stop (reported skuTaken e) (by rw [started, hv]; rfl))
            | ok answer =>
                obtain ⟨saved, w₁⟩ := answer
                refine .inr ⟨variant, saved, w₁, ⟨hf, free, hv⟩, ?_⟩
                rw [hv, settle_ok, follow_ok, runs_bind, runs_record] at started
                unfold recorded
                cases he : AuditService.event? context (updateAudit variant saved) with
                | none =>
                    rw [he] at started
                    exact .unaudited started
                | some event =>
                    rw [he] at started
                    exact .done started

/-- An update that makes its statements and has a tenant for its audit answers. -/
theorem update_answers {dto : UpdateVariantDto} {variant saved : ProductVariant} {w₁ : World}
    (steps : Updates tenantId productId variantId dto w variant saved w₁)
    (audited : AuditService.Audited context) :
    ((update context tenantId productId variantId dto).runs w).1 = .ok saved := by
  obtain ⟨event, recorded⟩ := AuditService.event?_of_audited audited (updateAudit variant saved)
  have saves : saveLoaded (patched dto variant) w.db w = .ok (saved, w₁) := steps.saves
  have passed : (checkedSku tenantId variantId dto variant).runs w = (.ok (), w) := by
    unfold checkedSku
    cases given : dto.sku.truthy with
    | none => rfl
    | some sku =>
        by_cases other : sku = variant.sku
        · simp [other]
        · simp only [bne_iff_ne, ne_eq, other, not_false_eq_true, if_true, assertSkuUniqueness,
            runs_checked, steps.free sku given other]
          rfl
  rw [runs_update, runs_findOne, steps.finds]
  simp only [orMissing, follow_ok, runs_bind, passed, runs_translated, runs_saving, saves,
    settle_ok, runs_record, recorded]
  rfl

/-- The statements of a removal. -/
structure Removes (tenantId productId variantId : String) (w : World) (variant : ProductVariant)
    (w₁ : World) : Prop where
  finds : readOne tenantId productId variantId w = .ok (some variant)
  removes : softRemove variant w = .ok ((), w₁)

def removeAudit (variant : ProductVariant) : AuditEventInput where
  action := .delete
  entityType := .productVariant
  entityId := UuidText.uuidOut variant.id
  oldValues := some (auditValues variant)
  newValues := none
  metadata := none
  actorId := none

theorem remove_cases (context : Option AuditContextData) (tenantId productId variantId : String)
    (w : World) :
    let out := (remove context tenantId productId variantId).runs w
    ((∃ e, out.1 = .error e) ∧ out.2 = w) ∨
      ∃ variant w₁, Removes tenantId productId variantId w variant w₁ ∧
        Ends out () w₁ (recorded context (removeAudit variant) w₁) := by
  intro out
  have stop : ∀ e, out = (.error e, w) → (∃ e, out.1 = .error e) ∧ out.2 = w :=
    fun e h => ⟨⟨e, by rw [h]⟩, by rw [h]⟩
  have started : out = follow (fun variant => do
      softRemoving (.variant variant) fun _ => softRemove variant
      AuditService.record context (removeAudit variant))
        ((findOne tenantId productId variantId).runs w) := by
    rw [← runs_bind]
    rfl
  rw [runs_findOne] at started
  cases hf : readOne tenantId productId variantId w with
  | error e => exact .inl (stop e (by rw [started, hf]; rfl))
  | ok found =>
      rw [hf] at started
      cases found with
      | none => exact .inl (stop _ started)
      | some variant =>
          simp only [orMissing, follow_ok, runs_bind, runs_softRemoving] at started
          cases hv : softRemove variant w with
          | error e => exact .inl (stop e (by rw [started, hv]; rfl))
          | ok answer =>
              obtain ⟨⟨⟩, w₁⟩ := answer
              refine .inr ⟨variant, w₁, ⟨hf, hv⟩, ?_⟩
              rw [hv, settle_ok, follow_ok, runs_record] at started
              unfold recorded
              cases he : AuditService.event? context (removeAudit variant) with
              | none =>
                  rw [he] at started
                  exact .unaudited started
              | some event =>
                  rw [he] at started
                  exact .done started

/-! ## Reading -/

theorem findOneById_world (tenantId variantId : String) (w : World) :
    ((findOneById tenantId variantId).runs w).2 = w := by
  unfold findOneById
  exact congrArg Prod.snd (runs_found (fun _ => rfl) rfl w)

/-- A list of variants changes nothing but the rank of ties. -/
theorem findAll_world (platform : Platform) (tenantId productId : String)
    (query : VariantQueryDto) (w : World) :
    ((findAll platform tenantId productId query).runs w).2 = w ∨
      ((findAll platform tenantId productId query).runs w).2 =
        { w with ties := fun n => w.ties (n + 1) } := by
  simp only [findAll, runs_bind, runs_findProduct]
  cases orMissing _ (readProduct tenantId productId w) with
  | error e => exact .inl rfl
  | ok product =>
      simp only [follow_ok, runs_bind, runs_listing]
      cases readPage platform tenantId productId query _ _ (w.ties 0) w with
      | error e => exact .inr rfl
      | ok rows => exact .inr rfl

end VariantService

inductive VariantOp
  | create (productId : String) (dto : CreateVariantDto)
  | update (productId variantId : String) (dto : UpdateVariantDto)
  | remove (productId variantId : String)
  | findOne (productId variantId : String)
  | findOneById (variantId : String)
  | findAll (productId : String) (query : VariantQueryDto)

/-- The state that a call of the variant service leaves, whether it answers or throws. -/
def VariantOp.act (platform : Platform) (request : Request VariantOp) (w : World) : World :=
  let tenantId := request.tenantId
  match request.op with
  | .create productId dto =>
      ((VariantService.create request.context tenantId productId dto).runs w).2
  | .update productId variantId dto =>
      ((VariantService.update request.context tenantId productId variantId dto).runs w).2
  | .remove productId variantId =>
      ((VariantService.remove request.context tenantId productId variantId).runs w).2
  | .findOne productId variantId =>
      ((VariantService.findOne tenantId productId variantId).runs w).2
  | .findOneById variantId => ((VariantService.findOneById tenantId variantId).runs w).2
  | .findAll productId query =>
      ((VariantService.findAll platform tenantId productId query).runs w).2

/-! ## The catalog -/

inductive CatalogOp
  | category (op : CategoryOp)
  | product (op : ProductOp)
  | variant (op : VariantOp)

def CatalogOp.act (platform : Platform) (request : Request CatalogOp) : World → World :=
  match request.op with
  | .category op => CategoryOp.act platform { request with op }
  | .product op => ProductOp.act platform { request with op }
  | .variant op => VariantOp.act platform { request with op }

end Tenantory
