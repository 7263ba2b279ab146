import Tenantory.ShopRuns

/-! Keys of removed rows. A service looks for a key among the live rows, and the unique
constraint looks among all of them: a call that has what else it needs is refused
exactly when a removed row still has its key. -/

namespace Tenantory

open Stored UuidText Svc

/-! ## Rules on keys -/

/-- What is said of a key: no live row has it, no removed row has it, the call answers. -/
abbrev KeyRule := (free unheld answers : Prop) → Prop

namespace KeyRule

variable {ρ α : Type} [Constrained ρ]

/-- The rule for the rows that `takes` the key, of those that are `live` and of the rest. -/
def governs (rule : KeyRule) (t : Table ρ) (live takes : ρ → Bool)
    (out : Except Err α × World) :
    Prop :=
  rule (∀ r ∈ t, live r = true → takes r = false)
    (∀ r ∈ t, live r = false → takes r = false)
    (∃ a, out.1 = .ok a)

/-- A key that no live row has can be used. -/
def reusable : KeyRule := fun free _ answers => free → answers

/-- A key that no live row has can be used exactly when no removed row has it. -/
def heldByRemoved : KeyRule := fun free unheld answers => free → (answers ↔ unheld)

theorem heldByRemoved_governs {t : Table ρ} {live takes : ρ → Bool}
    {out : Except Err α × World}
    (h : (∀ r ∈ t, live r = true → takes r = false) →
      ((∃ a, out.1 = .ok a) ↔ ∀ r ∈ t, takes r = false)) :
    heldByRemoved.governs t live takes out := by
  intro free
  refine (h free).trans ⟨fun all r hr _ => all r hr, fun unheld r hr => ?_⟩
  cases alive : live r with
  | true => exact free r hr alive
  | false => exact unheld r hr alive

end KeyRule

section Constraints

variable {ρ : Type} [Entity ρ] {t : Table ρ} (row : ρ) (takes : ρ → Bool)

/-- A row under a new id conflicts with the rows that take its key. -/
theorem apart_iff (splits : ∀ s, conflict row s = (Entity.id row == Entity.id s || takes s))
    (fresh : ∀ s ∈ t, Entity.id s ≠ Entity.id row) :
    (∀ s ∈ t, conflict row s = false) ↔ ∀ s ∈ t, takes s = false := by
  refine forall₂_congr fun s hs => ?_
  have other : (Entity.id row == Entity.id s) = false := by simpa using (fresh s hs).symm
  rw [splits, other, Bool.false_or]

/-- A row that is rewritten conflicts with the other rows that take its key. -/
theorem others_apart_iff {i : Uuid}
    (splits : ∀ s, conflict row s = (Entity.id row == Entity.id s || takes s))
    (own : Entity.id row = i) :
    (∀ s ∈ t, Entity.id s ≠ i → conflict row s = false) ↔
      ∀ s ∈ t, (Entity.id s != i && takes s) = false := by
  refine forall₂_congr fun s _ => ?_
  rw [splits, own]
  by_cases same : Entity.id s = i
  · simp [same]
  · simp [same, Ne.symm same]

theorem hasTenant_of_live {db : Database} {tenant : Uuid} (live : db.liveTenant tenant = true) :
    hasTenant db tenant = true := by
  obtain ⟨t, mem, passes⟩ := List.any_eq_true.mp live
  exact List.any_eq_true.mpr ⟨t, mem, (Bool.and_eq_true_iff.mp passes).1⟩

end Constraints

/-! ## Categories -/

namespace CategoryService

variable {platform : Platform} {context : Option AuditContextData} {tenantId id : String}
  {w w' : World} {entity target : CategoryEntity} {row : Category} {now : Timestamp}

/-- The row has the name or the slug in the tenant. -/
def takes (tenant : Uuid) (name slug : String) (row : Category) : Bool :=
  tenant == row.tenantId && (name == row.name || slug == row.slug)

/-! A save among rows that pass their checks fails on the saved row only. -/

theorem reparent_of_sound (i : Uuid) (parent : Option Uuid) (now : Timestamp) (sound : Sound w.db)
    (stored : ∀ p, parent = some p → w.db.categories.rows.any (·.id == p) = true) :
    ∃ w', w.update i (fun row : Category => { row with parentId := parent, updatedAt := now }) =
      .ok w' := by
  by_cases there : ∃ r ∈ w.db.categories, r.id = i
  · obtain ⟨r, mem, same⟩ := there
    obtain ⟨fits, keys⟩ := sound.categories r mem
    refine World.update_of mem same fits ?_ fun s hs other => ?_
    · refine Bool.or_eq_false_iff.mpr ⟨(Bool.or_eq_false_iff.mp keys).1, ?_⟩
      cases up : parent with
      | none => rfl
      | some p => simpa using stored p up
    · change conflict r s = false
      by_contra meets
      have one : r = s := Table.eq_of_conflict mem hs (by simpa using meets)
      exact other (by rw [← one]; exact same)
  · exact ⟨w, World.update_absent fun r hr same => there ⟨r, hr, same⟩⟩

theorem reparents_of_sound {β : Type} (ident : β → Uuid) (parent : Option Uuid) (l : List β)
    (sound : Sound w.db)
    (stored : ∀ p, parent = some p → w.db.categories.rows.any (·.id == p) = true) :
    ∃ w', l.foldlM (fun w b => w.update (ident b) fun row : Category =>
      { row with parentId := parent, updatedAt := w.clock }) w = .ok w' ∧ Tracks w.db w'.db := by
  induction l generalizing w with
  | nil => exact ⟨w, rfl, sound, IdsKept.refl w.db⟩
  | cons b l ih =>
      obtain ⟨w₁, first⟩ := reparent_of_sound (ident b) parent w.clock sound stored
      have after : Tracks w.db w₁.db :=
        Tracks.update (f := fun row : Category =>
          { row with parentId := parent, updatedAt := w.clock }) ⟨sound, IdsKept.refl w.db⟩
            (fun _ => rfl) first
      obtain ⟨w', rest, last⟩ := ih after.1 fun p hp => after.2.categories p (stored p hp)
      refine ⟨w', ?_, last.1, after.2.trans last.2⟩
      rw [List.foldlM_cons]
      exact bind_eq_ok.mpr ⟨w₁, first, rest⟩

theorem saveChildren_of_sound (entity : CategoryEntity) (db : Database) (sound : Sound w.db)
    (stored : w.db.categories.rows.any (·.id == entity.id) = true) :
    ∃ w', saveChildren entity db w = .ok w' := by
  unfold saveChildren
  split
  · exact ⟨w, rfl⟩
  · rename_i listed _
    obtain ⟨w₁, bound, after⟩ := reparents_of_sound (fun c : CategoryColumns => c.id)
      (some entity.id) (listed.filter fun c =>
        (db.liveChildren entity.id).all (·.id != c.id)) sound fun p hp => by
          cases hp
          exact stored
    obtain ⟨w', removed, -⟩ := reparents_of_sound (fun c : Category => c.id)
      none ((db.liveChildren entity.id).filter fun c =>
        listed.all (·.id != c.id)) after.1 fun p hp => by cases hp
    exact ⟨w', bind_eq_ok.mpr ⟨w₁, bound, removed⟩⟩

theorem save_iff (entity : CategoryEntity) (sound : Sound w.db) (mem : row ∈ w.db.categories)
    (same : row.id = entity.id) :
    (∃ saved w', save entity w = .ok (saved, w')) ↔ misfit (written entity row) = none ∧
      dangling w.db (written entity row) = false ∧
      ∀ c ∈ w.db.categories, c.id ≠ entity.id →
        conflict (written entity row) c = false := by
  obtain ⟨stamp, stamped⟩ := overwrite_eq entity w.clock row
  have found : w.db.rowById Category entity.id = some row :=
    Table.find?_of_mem mem (beq_iff_eq.mpr same) fun c _ hc =>
      Entity.same_id _ _ (same.trans (beq_iff_eq.mp hc).symm)
  have checks := World.update_iff (w := w) (f := overwrite entity w.clock) mem same
    ((overwrite_id entity w.clock row).trans same)
  rw [stamped] at checks
  rw [save_eq, found]
  refine Iff.trans ?_ checks
  constructor
  · rintro ⟨saved, w', h⟩
    obtain ⟨w₁, updated, -⟩ := bind_eq_ok.mp h
    exact ⟨w₁, updated⟩
  · rintro ⟨w₁, updated⟩
    have after : Tracks w.db w₁.db :=
      Tracks.update ⟨sound, IdsKept.refl w.db⟩ (overwrite_id entity w.clock) updated
    obtain ⟨w₂, children⟩ := saveChildren_of_sound entity w.db after.1
      (after.2.categories _ (List.any_eq_true.mpr ⟨row, mem, beq_iff_eq.mpr same⟩))
    exact ⟨_, w₂, bind_eq_ok.mpr ⟨w₁, updated,
      bind_eq_ok.mpr ⟨w₂, children, rfl⟩⟩⟩

/-- What a creation needs beside a name and a slug. -/
structure CreateReady (platform : Platform) (context : Option AuditContextData)
    (tenantId : String) (dto : CreateCategoryDto) (w : World) (tenant : Uuid)
    (parent : Option Category) : Prop where
  owner : uuidIn tenantId = some tenant
  known : hasTenant w.db tenant = true
  names : namedParent tenantId dto.parentId w = .ok parent
  name : dto.name.length ≤ 120
  slug : (newCategorySlug platform dto).length ≤ 150
  fresh : ∀ c ∈ w.db.categories, c.id ≠ w.ids 0
  audited : AuditService.Audited context

/-- The row that a creation inserts. -/
def insertedRow (tenant : Uuid) (name slug : String) (parent : Option Category) (w : World) :
    Category where
  id := w.ids 0
  tenantId := tenant
  name := name
  slug := slug
  parentId := parent.map (·.id)
  createdAt := w.clock
  updatedAt := w.clock
  deletedAt := none

theorem insert_iff {tenant : Uuid} (name slug : String) (parent : Option Category)
    (owner : uuidIn tenantId = some tenant) :
    (∃ category w', insert tenantId name slug parent w = .ok (category, w')) ↔
      misfit (insertedRow tenant name slug parent w) = none ∧
        dangling w.db (insertedRow tenant name slug parent w) = false ∧
        ∀ c ∈ w.db.categories, conflict (insertedRow tenant name slug parent w) c = false := by
  refine Iff.trans ?_ (World.insert_iff (w := w) (fun id now =>
    { id, tenantId := tenant, name, slug, parentId := parent.map (·.id), createdAt := now,
      updatedAt := now, deletedAt := none : Category }))
  constructor
  · rintro ⟨category, w', h⟩
    obtain ⟨i, named, h⟩ := bind_eq_ok.mp h
    obtain rfl : tenant = i := Option.some.inj (owner.symm.trans (uuidParam_eq_ok.mp named))
    obtain ⟨⟨row, w₁⟩, inserted, -⟩ := bind_eq_ok.mp h
    exact ⟨row, w₁, inserted⟩
  · rintro ⟨row, w₁, inserted⟩
    exact ⟨_, _, bind_eq_ok.mpr ⟨tenant, uuidParam_eq_ok.mpr owner,
      bind_eq_ok.mpr ⟨(row, w₁), inserted, rfl⟩⟩⟩

theorem namedParent_stored {parentId : Property String} {parent : Option Category}
    (names : namedParent tenantId parentId w = .ok parent) {p : Uuid}
    (up : parent.map (·.id) = some p) : w.db.categories.rows.any (·.id == p) = true := by
  unfold namedParent at names
  cases given : parentId.truthy with
  | none =>
      rw [given] at names
      cases names
      cases up
  | some text =>
      rw [given] at names
      simp only [Option.mapM_some, assertParentExists, runs_map, runs_bind, runs_query] at names
      cases read : readParent tenantId text w with
      | error e =>
          rw [read] at names
          cases names
      | ok found =>
          rw [read] at names
          cases found with
          | none => cases names
          | some c =>
              cases names
              cases up
              exact List.any_eq_true.mpr ⟨c, (readParent_ok read).1, beq_self_eq_true _⟩

theorem create_follows_keys {dto : CreateCategoryDto} {tenant : Uuid} {parent : Option Category}
    (ready : CreateReady platform context tenantId dto w tenant parent) :
    KeyRule.heldByRemoved.governs w.db.categories Category.live
      (takes tenant dto.name (newCategorySlug platform dto))
      ((create platform context tenantId dto).runs w) := by
  refine KeyRule.heldByRemoved_governs fun free => ?_
  have fits : misfit (insertedRow tenant dto.name (newCategorySlug platform dto) parent w) =
      none := by
    refine firstError_eq_none.mpr ?_
    simp [Stored.fits, insertedRow, ready.name, ready.slug]
  have keys : dangling w.db
      (insertedRow tenant dto.name (newCategorySlug platform dto) parent w) = false := by
    refine Bool.or_eq_false_iff.mpr ⟨by simpa [insertedRow] using ready.known, ?_⟩
    cases up : parent.map (·.id) with
    | none => simp [insertedRow, up]
    | some p => simpa [insertedRow, up] using namedParent_stored ready.names up
  have inserts := insert_iff (w := w) dto.name (newCategorySlug platform dto) parent ready.owner
  have apart := apart_iff (t := w.db.categories)
    (insertedRow tenant dto.name (newCategorySlug platform dto) parent w)
    (takes tenant dto.name (newCategorySlug platform dto)) (fun _ => rfl) ready.fresh
  constructor
  · rintro ⟨category, answered⟩
    rcases create_cases platform context tenantId dto w with
      ⟨⟨e, failed⟩, -⟩ | ⟨named, category, w₂, steps, -⟩
    · rw [answered] at failed
      cases failed
    · obtain rfl : named = parent := Except.ok.inj (steps.names.symm.trans ready.names)
      exact apart.mp (inserts.mp ⟨category, w₂, steps.inserts⟩).2.2
  · intro untaken
    have unused : slugExists tenantId (newCategorySlug platform dto) none w = .ok false := by
      unfold slugExists
      rw [uuidParam_eq_ok.mpr ready.owner]
      refine congrArg Except.ok (List.any_eq_false.mpr fun c hc taken => ?_)
      simp only [Bool.and_eq_true, beq_iff_eq] at taken
      obtain ⟨⟨⟨owned, same⟩, -⟩, -⟩ := taken
      have apart := untaken c hc
      simp [takes, owned, same] at apart
    obtain ⟨category, w₂, inserted⟩ := inserts.mpr ⟨fits, keys, apart.mpr untaken⟩
    exact ⟨category, create_answers ⟨unused, ready.names, inserted⟩ ready.audited⟩

/-! ### Updates -/

theorem Finds.linked (finds : Finds tenantId id w target w')
    (linked : w.CachedAll (Linked w.db)) :
    Linked w.db (CacheKeys.category tenantId id) (.category target) := by
  rcases finds.source with hit | read
  · obtain ⟨value, found, wrapped⟩ := Option.bind_eq_some_iff.mp hit
    have same : value = .category target := by
      cases value <;> cases wrapped
      rfl
    rw [← same]
    exact linked.of_cached found
  · exact fresh_linked read

/-- What an update needs beside a name and a slug. It edits the `target` that it finds,
and puts it below `parent`. -/
structure UpdateReady (platform : Platform) (context : Option AuditContextData)
    (tenantId id : String) (dto : UpdateCategoryDto) (w : World) (row : Category)
    (target : CategoryEntity) (parent : Option (Option CategoryColumns)) : Prop where
  readable : Readable w.db tenantId id row
  looks : ∃ w₁, Finds tenantId id w target w₁ ∧
    (chooseParent tenantId id dto.parentId target.parent).runs w₁ = (.ok parent, w₁)
  name : (edited platform dto target parent).name.length ≤ 120
  slug : (edited platform dto target parent).slug.length ≤ 150
  audited : AuditService.Audited context

/-- A chosen parent is stored. -/
theorem chosen_stored {parentId : Property String} {parent : Option (Option CategoryColumns)}
    (chooses : (chooseParent tenantId id parentId target.parent).runs w = (.ok parent, w))
    (held : ∀ p, target.parentId = some p → w.db.categories.rows.any (·.id == p) = true) :
    ∀ c p, parent = some c → c.map (·.id) = some p →
      w.db.categories.rows.any (·.id == p) = true := by
  intro c p given up
  cases parentId with
  | undefined =>
      obtain rfl : target.parent = parent := Except.ok.inj (congrArg Prod.fst chooses)
      refine held p ?_
      unfold CategoryEntity.parentId
      rw [given]
      exact up
  | null =>
      obtain rfl : some none = parent := Except.ok.inj (congrArg Prod.fst chooses)
      cases given
      cases up
  | value text =>
      simp only [chooseParent] at chooses
      split at chooses
      · cases congrArg Prod.fst chooses
      · split at chooses
        · obtain rfl : some none = parent := Except.ok.inj (congrArg Prod.fst chooses)
          cases given
          cases up
        · simp only [assertParentExists, runs_bind, runs_query] at chooses
          cases read : readParent tenantId text w with
          | error e =>
              rw [read] at chooses
              cases congrArg Prod.fst chooses
          | ok found =>
              rw [read] at chooses
              cases found with
              | none => cases congrArg Prod.fst chooses
              | some d =>
                  obtain rfl : some (some d.columns) = parent :=
                    Except.ok.inj (congrArg Prod.fst chooses)
                  cases given
                  cases up
                  exact List.any_eq_true.mpr ⟨d, (readParent_ok read).1, beq_self_eq_true _⟩

/-- The edited entity keeps the foreign keys of the row that it is written to. -/
theorem edited_keys (platform : Platform) (dto : UpdateCategoryDto) (target : CategoryEntity)
    {parent : Option (Option CategoryColumns)} (sound : Sound w.db) (mem : row ∈ w.db.categories)
    (chosen : ∀ c p, parent = some c → c.map (·.id) = some p →
      w.db.categories.rows.any (·.id == p) = true) :
    dangling w.db (written (edited platform dto target parent) row) = false := by
  have keys := (sound.categories row mem).2
  refine Bool.or_eq_false_iff.mpr ⟨(Bool.or_eq_false_iff.mp keys).1, ?_⟩
  cases parent with
  | none => exact (Bool.or_eq_false_iff.mp keys).2
  | some c =>
      cases up : c.map (·.id) with
      | none => simp [written, edited, up]
      | some p => simpa [written, edited, up] using chosen c p rfl up

theorem update_follows_keys {dto : UpdateCategoryDto} {parent : Option (Option CategoryColumns)}
    (orderly : w.Orderly)
    (ready : UpdateReady platform context tenantId id dto w row target parent) :
    KeyRule.heldByRemoved.governs w.db.categories Category.live
      (fun c => c.id != row.id && takes row.tenantId (edited platform dto target parent).name
        (edited platform dto target parent).slug c)
      ((update platform context tenantId id dto).runs w) := by
  obtain ⟨w₁, finds, chooses⟩ := ready.looks
  have linked := finds.linked orderly.linked
  have named : target.id = row.id := by
    have own := finds.named fun entry mem => (orderly.linked entry mem).named
    exact Option.some.inj (own.symm.trans ready.readable.named)
  have sound : Sound w₁.db := by
    rw [finds.db]
    exact orderly.sound
  have mem : row ∈ w₁.db.categories := by
    rw [finds.db]
    exact ready.readable.stored
  have chosen := chosen_stored chooses fun p up => by
    rw [finds.db]
    exact linked.parent target rfl p up
  have saves := save_iff (edited platform dto target parent) sound mem named.symm
  have apart := others_apart_iff (t := w₁.db.categories)
    (written (edited platform dto target parent) row)
    (takes row.tenantId (edited platform dto target parent).name
      (edited platform dto target parent).slug) (fun _ => rfl) (i := row.id) rfl
  rw [finds.db] at apart saves
  refine KeyRule.heldByRemoved_governs fun free => ?_
  constructor
  · rintro ⟨saved, answered⟩
    rcases update_cases platform context tenantId id dto w with
      ⟨⟨e, failed⟩, -⟩ | ⟨found, w₁', chosen', saved, w₂, steps, -⟩
    · rw [answered] at failed
      cases failed
    · obtain ⟨rfl, rfl⟩ : found = target ∧ w₁' = w₁ := by
        have both := (finds_iff.mpr steps.finds).symm.trans (finds_iff.mpr finds)
        exact ⟨Except.ok.inj (congrArg Prod.fst both), congrArg Prod.snd both⟩
      obtain rfl : chosen' = parent :=
        Except.ok.inj (congrArg Prod.fst (steps.chooses.symm.trans chooses))
      refine apart.mp fun c hc other => (saves.mp ⟨saved, w₂, steps.saves⟩).2.2 c hc ?_
      exact fun same => other (same.trans named)
  · intro untaken
    have unused : slugExists tenantId (newSlug platform dto target) (excluded id) w₁ =
        .ok false := by
      have some_text : id ≠ "" := by
        rintro rfl
        have none_named := ready.readable.named
        cases none_named
      unfold slugExists excluded
      rw [uuidParam_eq_ok.mpr ready.readable.owned, if_neg some_text]
      change (uuidParam id >>= fun i => pure _ : Except Err (Option Uuid)) >>= _ = _
      rw [uuidParam_eq_ok.mpr ready.readable.named, finds.db]
      refine congrArg Except.ok (List.any_eq_false.mpr fun c hc taken => ?_)
      simp only [Bool.and_eq_true, beq_iff_eq, Option.all_some, bne_iff_ne, ne_eq] at taken
      obtain ⟨⟨⟨owned, same⟩, -⟩, other⟩ := taken
      have apart := untaken c hc
      simp [takes, edited, owned, same, Ne.symm other] at apart
    have fits : misfit (written (edited platform dto target parent) row) = none := by
      refine firstError_eq_none.mpr ?_
      simp [Stored.fits, written, ready.name, ready.slug]
    have keys := edited_keys platform dto target sound mem chosen
    rw [finds.db] at keys
    obtain ⟨saved, w₂, saved_eq⟩ := saves.mpr ⟨fits, keys, fun c hc other =>
      apart.mpr untaken c hc fun same => other (same.trans named.symm)⟩
    exact ⟨saved, update_answers ⟨finds, unused, chooses, saved_eq⟩ ready.audited⟩

end CategoryService

/-! ## Variants -/

namespace VariantService

variable {context : Option AuditContextData} {tenantId productId variantId : String} {w : World}

/-- The row has the sku in the tenant. -/
def takes (tenant : Uuid) (sku : String) (row : ProductVariant) : Bool :=
  tenant == row.tenantId && sku == row.sku

/-- A price that its column holds. -/
def PriceFits (price : ℚ) : Prop := -10000000000 < price ∧ price < 10000000000

/-- What a creation needs beside a sku. -/
structure CreateReady (context : Option AuditContextData) (tenantId productId : String)
    (dto : CreateVariantDto) (w : World) (product : Product) : Prop where
  finds : readProduct tenantId productId w = .ok (some product)
  sku : dto.sku.length ≤ 100
  price : PriceFits dto.price
  fresh : ∀ v ∈ w.db.variants, v.id ≠ w.ids 0
  audited : AuditService.Audited context

theorem insert_iff (dto : CreateVariantDto) {tenant product : Uuid}
    (owner : uuidIn tenantId = some tenant) (place : uuidIn productId = some product) :
    (∃ saved w', insert tenantId productId dto w = .ok (saved, w')) ↔
      misfit (insertedRow dto tenant product w) = none ∧
        dangling w.db (insertedRow dto tenant product w) = false ∧
        ∀ v ∈ w.db.variants, conflict (insertedRow dto tenant product w) v = false := by
  unfold insert
  rw [uuidParam_eq_ok.mpr owner, uuidParam_eq_ok.mpr place]
  exact World.insert_iff (w := w) (fun id now =>
    { id, tenantId := tenant, productId := product, sku := dto.sku, price := dto.price,
      attributes := dto.attributes.toOption.getD .emptyObject, createdAt := now,
      updatedAt := now, deletedAt := none : ProductVariant })

theorem create_follows_keys {dto : CreateVariantDto} {product : Product}
    (ready : CreateReady context tenantId productId dto w product) :
    KeyRule.heldByRemoved.governs w.db.variants ProductVariant.live (takes product.tenantId dto.sku)
      ((create context tenantId productId dto).runs w) := by
  obtain ⟨owner, place, stored, live⟩ := readProduct_ok ready.finds
  have inserts := insert_iff (w := w) dto owner place
  have apart := apart_iff (t := w.db.variants)
    (insertedRow dto product.tenantId product.id w)
    (takes product.tenantId dto.sku) (fun _ => rfl) ready.fresh
  refine KeyRule.heldByRemoved_governs fun free => ?_
  constructor
  · rintro ⟨saved, answered⟩
    rcases create_cases context tenantId productId dto w with
      ⟨⟨e, failed⟩, -⟩ | ⟨found, saved, w₁, steps, -⟩
    · rw [answered] at failed
      cases failed
    · exact apart.mp (inserts.mp ⟨saved, w₁, steps.inserts⟩).2.2
  · intro untaken
    have unused : skuExists tenantId dto.sku none w = .ok false := by
      unfold skuExists
      rw [uuidParam_eq_ok.mpr owner]
      refine congrArg Except.ok (List.any_eq_false.mpr fun v hv taken => ?_)
      simp only [Bool.and_eq_true, beq_iff_eq] at taken
      obtain ⟨⟨⟨owned, same⟩, -⟩, -⟩ := taken
      have apart := untaken v hv
      simp [takes, owned, same] at apart
    have fits : misfit (insertedRow dto product.tenantId product.id w) = none := by
      refine firstError_eq_none.mpr ?_
      have price := ready.price
      unfold PriceFits at price
      simp [Stored.fits, insertedRow, ready.sku, price]
    have keys : dangling w.db (insertedRow dto product.tenantId product.id w) = false := by
      refine Bool.or_eq_false_iff.mpr ⟨?_, ?_⟩
      · simpa [insertedRow] using hasTenant_of_live live
      · simpa [insertedRow] using ⟨product, stored, rfl⟩
    obtain ⟨saved, w₁, inserted⟩ := inserts.mpr ⟨fits, keys, apart.mpr untaken⟩
    exact ⟨saved, create_answers ⟨ready.finds, unused, inserted⟩ ready.audited⟩

/-! ### Updates -/

/-- What an update needs beside a sku. -/
structure UpdateReady (context : Option AuditContextData) (tenantId productId variantId : String)
    (dto : UpdateVariantDto) (w : World) (variant : ProductVariant) : Prop where
  finds : readOne tenantId productId variantId w = .ok (some variant)
  sku : (dto.sku.truthy.getD variant.sku).length ≤ 100
  price : dto.price ≠ .null ∧ ∀ price, dto.price = .value price → PriceFits price
  attributes : dto.attributes ≠ .null
  audited : AuditService.Audited context

theorem overwrite_of {draft : Draft} (now : Timestamp) (stored : ProductVariant) {price : ℚ}
    {attributes : Json} (hp : draft.price = some price) (ha : draft.attributes = some attributes) :
    ∃ stamp, overwrite draft now stored =
      .ok { drafted draft price attributes stored with updatedAt := stamp } := by
  have unfolded : overwrite draft now stored =
      if drafted draft price attributes stored = stored then .ok stored
      else if draft.entity.updatedAt = stored.updatedAt then
        .ok { drafted draft price attributes stored with updatedAt := now }
      else .ok (drafted draft price attributes stored) := by
    unfold overwrite
    rw [hp, ha]
    rfl
  rw [unfolded]
  split
  · rename_i same
    exact ⟨stored.updatedAt, by rw [same]⟩
  · split
    · exact ⟨now, rfl⟩
    · exact ⟨draft.entity.updatedAt, rfl⟩

theorem save_iff (draft : Draft) {row : ProductVariant} {price : ℚ} {attributes : Json}
    (mem : row ∈ w.db.variants) (same : row.id = draft.entity.id)
    (hp : draft.price = some price) (ha : draft.attributes = some attributes) :
    (∃ saved w', save draft w = .ok (saved, w')) ↔
      misfit (drafted draft price attributes row) = none ∧
        dangling w.db (drafted draft price attributes row) = false ∧
        ∀ v ∈ w.db.variants, v.id ≠ draft.entity.id →
          conflict (drafted draft price attributes row) v = false := by
  obtain ⟨stamp, stamped⟩ := overwrite_of w.clock row hp ha
  have found : w.db.rowById ProductVariant draft.entity.id = some row :=
    Table.find?_of_mem mem (beq_iff_eq.mpr same) fun v _ hv =>
      Entity.same_id _ _ (same.trans (beq_iff_eq.mp hv).symm)
  refine Iff.trans ?_ (World.update_iff (w := w) (f := fun _ : ProductVariant =>
    { drafted draft price attributes row with updatedAt := stamp }) mem same rfl)
  rw [save_eq, found]
  constructor
  · rintro ⟨saved, w', h⟩
    obtain ⟨written, wrote, h⟩ := bind_eq_ok.mp h
    obtain ⟨w₁, updated, -⟩ := bind_eq_ok.mp h
    rw [stamped] at wrote
    cases wrote
    exact ⟨w₁, updated⟩
  · rintro ⟨w₁, updated⟩
    exact ⟨_, w₁, bind_eq_ok.mpr ⟨_, stamped, bind_eq_ok.mpr ⟨w₁, updated, rfl⟩⟩⟩

/-- What an assignment that is no null makes of a column. -/
theorem assign_some {α : Type} {p : Property α} (given : p ≠ .null) (current : α) :
    ∃ a, p.assign (some current) = some a ∧ (p = .value a ∨ a = current) := by
  cases p with
  | undefined => exact ⟨current, rfl, .inr rfl⟩
  | null => exact absurd rfl given
  | value a => exact ⟨a, rfl, .inl rfl⟩

theorem update_follows_keys {dto : UpdateVariantDto} {variant : ProductVariant}
    (sound : Sound w.db)
    (ready : UpdateReady context tenantId productId variantId dto w variant) :
    KeyRule.heldByRemoved.governs w.db.variants ProductVariant.live
      (fun v => v.id != variant.id && takes variant.tenantId
        (dto.sku.truthy.getD variant.sku) v)
      ((update context tenantId productId variantId dto).runs w) := by
  obtain ⟨owner, named, mem⟩ := readOne_ok ready.finds
  obtain ⟨price, hp, priced⟩ := assign_some ready.price.1 variant.price
  obtain ⟨attributes, ha, -⟩ := assign_some ready.attributes variant.attributes
  have saves := save_iff (patched dto variant) mem rfl hp ha
  have apart := others_apart_iff (t := w.db.variants)
    (drafted (patched dto variant) price attributes variant)
    (takes variant.tenantId (dto.sku.truthy.getD variant.sku)) (fun _ => rfl)
    (i := variant.id) rfl
  obtain ⟨fitted, keys⟩ := sound.variants variant mem
  refine KeyRule.heldByRemoved_governs fun free => ?_
  constructor
  · rintro ⟨saved, answered⟩
    rcases update_cases context tenantId productId variantId dto w with
      ⟨⟨e, failed⟩, -⟩ | ⟨found, saved, w₁, steps, -⟩
    · rw [answered] at failed
      cases failed
    · obtain rfl : found = variant :=
        Option.some.inj (Except.ok.inj (steps.finds.symm.trans ready.finds))
      exact apart.mp (saves.mp ⟨saved, w₁, steps.saves⟩).2.2
  · intro untaken
    have unused : ∀ sku, dto.sku.truthy = some sku → sku ≠ variant.sku →
        skuExists tenantId sku (if variantId = "" then none else some variantId) w =
          .ok false := by
      intro sku given _
      have some_text : variantId ≠ "" := by
        rintro rfl
        cases named
      unfold skuExists
      rw [uuidParam_eq_ok.mpr owner, if_neg some_text]
      change (uuidParam variantId >>= fun i => pure _ : Except Err (Option Uuid)) >>= _ = _
      rw [uuidParam_eq_ok.mpr named]
      refine congrArg Except.ok (List.any_eq_false.mpr fun v hv taken => ?_)
      simp only [Bool.and_eq_true, beq_iff_eq, Option.all_some, bne_iff_ne, ne_eq] at taken
      obtain ⟨⟨⟨owned, same⟩, -⟩, other⟩ := taken
      have apart := untaken v hv
      simp [takes, given, owned, same, Ne.symm other] at apart
    have fits : misfit (drafted (patched dto variant) price attributes variant) = none := by
      have fit : PriceFits price := by
        rcases priced with given | rfl
        · exact ready.price.2 price given
        · have checked := firstError_eq_none.mp fitted
          simp only [List.mem_cons, forall_eq_or_imp, decide_eq_true_eq] at checked
          exact checked.2.1
      refine firstError_eq_none.mpr ?_
      unfold PriceFits at fit
      simp [Stored.fits, drafted, patched, ready.sku, fit]
    obtain ⟨saved, w₁, written⟩ := saves.mpr ⟨fits, keys, apart.mpr untaken⟩
    exact ⟨saved, update_answers ⟨ready.finds, unused, written⟩ ready.audited⟩

end VariantService

/-! ## Users and tenants -/

namespace TenantUserManagementService

variable {bcrypt : Bcrypt} {context : Option AuditContextData} {tenantId : String} {w : World}

/-- The row has the email in the tenant. -/
def takes (tenant : Uuid) (email : String) (row : User) : Bool :=
  tenant == row.tenantId && email == row.email

/-- What an invitation needs beside an email. -/
structure InviteReady (context : Option AuditContextData) (tenantId : String)
    (dto : InviteUserDto) (w : World) (tenant : Uuid) : Prop where
  owner : uuidIn tenantId = some tenant
  known : hasTenant w.db tenant = true
  role : dto.role ≠ .superAdmin
  email : dto.email.length ≤ 255
  firstName : dto.firstName.length ≤ 255
  lastName : dto.lastName.length ≤ 255
  fresh : ∀ u ∈ w.db.users, u.id ≠ w.ids 0
  audited : AuditService.Audited context

def invited (bcrypt : Bcrypt) (tenantId : String) (dto : InviteUserDto) : NewUser where
  tenantId := tenantId
  email := dto.email
  firstName := dto.firstName
  lastName := dto.lastName
  passwordHash := bcrypt.hash dto.password 12
  role := dto.role

/-- The row that an invitation inserts. -/
def insertedRow (bcrypt : Bcrypt) (tenant : Uuid) (dto : InviteUserDto) (w : World) : User where
  id := w.ids 0
  tenantId := tenant
  email := dto.email
  firstName := dto.firstName
  lastName := dto.lastName
  passwordHash := bcrypt.hash dto.password 12
  role := dto.role
  isActive := true
  createdAt := w.clock
  updatedAt := w.clock
  deletedAt := none

theorem insert_iff {dto : InviteUserDto} {tenant : Uuid} (owner : uuidIn tenantId = some tenant) :
    (∃ saved w', insert (invited bcrypt tenantId dto) w = .ok (saved, w')) ↔
      misfit (insertedRow bcrypt tenant dto w) = none ∧
        dangling w.db (insertedRow bcrypt tenant dto w) = false ∧
        ∀ u ∈ w.db.users, conflict (insertedRow bcrypt tenant dto w) u = false := by
  unfold insert
  change (∃ saved w', (uuidParam tenantId >>= _) = .ok (saved, w')) ↔ _
  rw [uuidParam_eq_ok.mpr owner]
  exact World.insert_iff (w := w) (fun id now =>
    { id, tenantId := tenant, email := dto.email, firstName := dto.firstName,
      lastName := dto.lastName, passwordHash := bcrypt.hash dto.password 12, role := dto.role,
      isActive := true, createdAt := now, updatedAt := now, deletedAt := none : User })

/-- An invitation to an unused email answers when the user is inserted. -/
theorem inviteUser_iff {dto : InviteUserDto} {tenant : Uuid}
    (ready : InviteReady context tenantId dto w tenant)
    (unused : readByEmail tenantId dto.email w = .ok none) :
    (∃ user, ((inviteUser bcrypt context tenantId dto).runs w).1 = .ok user) ↔
      ∃ saved w', insert (invited bcrypt tenantId dto) w = .ok (saved, w') := by
  have allowed : ¬ dto.role = .superAdmin := ready.role
  unfold inviteUser
  simp only [runs_bind, runs_query, unused, follow_ok, Option.isSome_none, Bool.false_eq_true,
    if_false, allowed, runs_tryCatch, runs_statement]
  change (∃ user, (rescue _ (follow _ (settle w (insert (invited bcrypt tenantId dto) w)))).1 =
    _) ↔
    _
  cases written : insert (invited bcrypt tenantId dto) w with
  | error e =>
      constructor
      · rintro ⟨user, answered⟩
        rw [settle_error, follow_error, rescue_error] at answered
        split at answered <;> cases answered
      · rintro ⟨saved, w', inserted⟩
        cases inserted
  | ok answer =>
      obtain ⟨saved, w₁⟩ := answer
      refine ⟨fun _ => ⟨saved, w₁, rfl⟩, fun _ => ⟨saved, ?_⟩⟩
      rw [settle_ok, follow_ok, runs_bind, runs_record]
      obtain ⟨event, recorded⟩ := AuditService.event?_of_audited ready.audited
        { action := .create, entityType := .user, entityId := uuidOut saved.id, oldValues := none,
          newValues := some (.obj [("email", .str saved.email), ("firstName", .str saved.firstName),
            ("lastName", .str saved.lastName), ("role", saved.role.toJson)]),
          metadata := none, actorId := none }
      rw [recorded]
      rfl

theorem inviteUser_follows_keys {dto : InviteUserDto} {tenant : Uuid}
    (ready : InviteReady context tenantId dto w tenant) :
    KeyRule.heldByRemoved.governs w.db.users User.live (takes tenant dto.email)
      ((inviteUser bcrypt context tenantId dto).runs w) := by
  refine KeyRule.heldByRemoved_governs fun free => ?_
  have unused : readByEmail tenantId dto.email w = .ok none := by
    unfold readByEmail
    rw [uuidParam_eq_ok.mpr ready.owner]
    refine congrArg Except.ok (Table.find?_eq_none.mpr fun u hu => ?_)
    by_contra taken
    simp only [Bool.not_eq_false, Bool.and_eq_true, beq_iff_eq] at taken
    obtain ⟨⟨same, owned⟩, live⟩ := taken
    have apart := free u hu live
    simp [takes, owned, same] at apart
  have fits : misfit (insertedRow bcrypt tenant dto w) = none := by
    refine firstError_eq_none.mpr ?_
    simp [Stored.fits, insertedRow, ready.email, ready.firstName, ready.lastName,
      bcrypt.length_hash]
  have keys : dangling w.db (insertedRow bcrypt tenant dto w) = false := by
    simpa [dangling, insertedRow] using ready.known
  have apart := apart_iff (t := w.db.users) (insertedRow bcrypt tenant dto w)
    (takes tenant dto.email) (fun _ => rfl) ready.fresh
  refine (inviteUser_iff ready unused).trans ((insert_iff ready.owner).trans ?_)
  exact ⟨fun ⟨_, _, free⟩ => apart.mp free, fun untaken =>
    ⟨fits, keys, apart.mpr untaken⟩⟩

end TenantUserManagementService

namespace TenantService

variable {w : World}

def takes (domainName : String) (row : Tenant) : Bool := domainName == row.domainName

/-- What a creation needs beside a domain name. -/
structure CreateReady (dto : CreateTenantDto) (w : World) : Prop where
  domainName : dto.domainName.length ≤ 255
  businessName : dto.businessName.length ≤ 255
  fresh : ∀ t ∈ w.db.tenants, t.id ≠ w.ids 0

/-- The row that a creation inserts. -/
def insertedRow (dto : CreateTenantDto) (w : World) : Tenant where
  id := w.ids 0
  domainName := dto.domainName
  businessName := dto.businessName
  status := dto.status
  createdAt := w.clock
  updatedAt := w.clock
  deletedAt := none

theorem create_follows_keys {dto : CreateTenantDto} (ready : CreateReady dto w) :
    KeyRule.heldByRemoved.governs w.db.tenants Tenant.live (takes dto.domainName)
      ((create dto).runs w) := by
  refine KeyRule.heldByRemoved_governs fun free => ?_
  have fits : misfit (insertedRow dto w) = none := by
    refine firstError_eq_none.mpr ?_
    simp [Stored.fits, insertedRow, ready.domainName, ready.businessName]
  have apart := apart_iff (t := w.db.tenants) (insertedRow dto w)
    (takes dto.domainName) (fun _ => rfl) ready.fresh
  have inserts : (∃ saved w', insert dto w = .ok (saved, w')) ↔
    misfit (insertedRow dto w) = none ∧
      dangling w.db (insertedRow dto w) = false ∧
      ∀ t ∈ w.db.tenants, conflict (insertedRow dto w) t = false :=
    World.insert_iff (w := w) (fun id now =>
      { id, domainName := dto.domainName, businessName := dto.businessName, status := dto.status,
        createdAt := now, updatedAt := now, deletedAt := none : Tenant })
  have answers : (∃ tenant, ((create dto).runs w).1 = .ok tenant) ↔
      ∃ saved w', insert dto w = .ok (saved, w') := by
    unfold create
    rw [runs_translated, runs_statement]
    cases insert dto w with
    | error e =>
        constructor
        · rintro ⟨tenant, answered⟩
          cases answered
        · rintro ⟨saved, w', inserted⟩
          cases inserted
    | ok answer => exact ⟨fun _ => ⟨answer.1, answer.2, rfl⟩, fun _ => ⟨answer.1, rfl⟩⟩
  refine answers.trans (inserts.trans ?_)
  exact ⟨fun ⟨_, _, free⟩ => apart.mp free, fun untaken =>
    ⟨fits, rfl, apart.mpr untaken⟩⟩

end TenantService

/-! ## Runs -/

/-- A rule for every call that creates or renames, where it has what it needs beside
its key. -/
def ShopOp.Follows (rule : KeyRule) (platform : Platform) (bcrypt : Bcrypt)
    (request : Request ShopOp) (w : World) : Prop :=
  let context := request.context
  let tenantId := request.tenantId
  match request.op with
  | .catalog (.category (.create dto)) => ∀ tenant parent,
      CategoryService.CreateReady platform context tenantId dto w tenant parent →
      rule.governs w.db.categories Category.live
        (CategoryService.takes tenant dto.name (CategoryService.newCategorySlug platform dto))
        ((CategoryService.create platform context tenantId dto).runs w)
  | .catalog (.category (.update id dto)) => ∀ row target parent,
      CategoryService.UpdateReady platform context tenantId id dto w row target parent →
      rule.governs w.db.categories Category.live
        (fun c => c.id != row.id && CategoryService.takes row.tenantId
          (CategoryService.edited platform dto target parent).name
          (CategoryService.edited platform dto target parent).slug c)
        ((CategoryService.update platform context tenantId id dto).runs w)
  | .catalog (.variant (.create productId dto)) => ∀ product,
      VariantService.CreateReady context tenantId productId dto w product →
      rule.governs w.db.variants ProductVariant.live
        (VariantService.takes product.tenantId dto.sku)
        ((VariantService.create context tenantId productId dto).runs w)
  | .catalog (.variant (.update productId variantId dto)) => ∀ variant,
      VariantService.UpdateReady context tenantId productId variantId dto w variant →
      rule.governs w.db.variants ProductVariant.live
        (fun v => v.id != variant.id && VariantService.takes variant.tenantId
          (dto.sku.truthy.getD variant.sku) v)
        ((VariantService.update context tenantId productId variantId dto).runs w)
  | .user (.invite dto) => ∀ tenant,
      TenantUserManagementService.InviteReady context tenantId dto w tenant →
      rule.governs w.db.users User.live (TenantUserManagementService.takes tenant dto.email)
        ((TenantUserManagementService.inviteUser bcrypt context tenantId dto).runs w)
  | .tenant (.create dto) => TenantService.CreateReady dto w →
      rule.governs w.db.tenants Tenant.live (TenantService.takes dto.domainName)
        ((TenantService.create dto).runs w)
  | _ => True

/-- In every run, a key that no live row has can be used exactly when no removed row
still has it. -/
theorem keys_held_by_removed (platform : Platform) (bcrypt : Bcrypt) (start w : World)
    (initial : start.Orderly)
    (reached : Request.Reached (ShopOp.act platform bcrypt) (fun _ _ => True) start w)
    (request : Request ShopOp) :
    ShopOp.Follows .heldByRemoved platform bcrypt request (request.arrive w) := by
  have orderly := orderly_reached initial reached
  have arrived : (request.arrive w).Orderly := ⟨orderly.sound, orderly.linked⟩
  obtain ⟨context, tenantId, now, op⟩ := request
  cases op with
  | catalog op =>
      cases op with
      | category op =>
          cases op with
          | create dto => exact fun tenant parent => CategoryService.create_follows_keys
          | update id dto => exact fun row target parent =>
              CategoryService.update_follows_keys arrived
          | remove id => trivial
          | findOne id => trivial
          | findAll query => trivial
          | findTree => trivial
      | product op => trivial
      | variant op =>
          cases op with
          | create productId dto => exact fun product => VariantService.create_follows_keys
          | update productId variantId dto => exact fun variant =>
              VariantService.update_follows_keys arrived.sound
          | remove productId variantId => trivial
          | findOne productId variantId => trivial
          | findOneById variantId => trivial
          | findAll productId query => trivial
  | tenant op =>
      cases op with
      | create dto => exact TenantService.create_follows_keys
      | update id dto => trivial
      | remove id => trivial
      | findOne id => trivial
  | user op =>
      cases op with
      | invite dto => exact fun tenant => TenantUserManagementService.inviteUser_follows_keys
      | updateRole userId dto => trivial

open SampleShop

namespace SampleShop

def polos : CreateCategoryDto := ⟨"Polos", .undefined, .undefined⟩

def callFor (now : Timestamp) (op : CategoryOp) : Request ShopOp :=
  ⟨some context, uuidOut tenantId, now, .catalog (.category op)⟩

def createPolosAt (now : Timestamp) : Request ShopOp := callFor now (.create polos)

def removePolos : Request ShopOp := callFor 3 (.remove (uuidOut 1000))

def handled (request : Request ShopOp) (w : World) : World :=
  ShopOp.act plainText hashing request (request.arrive w)

/-- The shop after a category was created and removed. -/
def polosRemoved : World := handled removePolos (handled (createPolosAt 2) (world unstocked))

theorem polosRemoved_reached :
    Request.Reached (ShopOp.act plainText hashing) (fun _ _ => True) (world unstocked)
      polosRemoved :=
  .serve removePolos (.serve (createPolosAt 2) .start trivial) trivial

theorem unstocked_orderly : (world unstocked).Orderly where
  sound := unstocked_sound
  linked := fun _ mem => (nomatch mem)

end SampleShop

theorem keys_held_by_removed_created :
    ShopOp.Follows .heldByRemoved plainText hashing (createPolosAt 4)
      ((createPolosAt 4).arrive polosRemoved) :=
  keys_held_by_removed plainText hashing (world unstocked) polosRemoved unstocked_orderly
    polosRemoved_reached (createPolosAt 4)

/-- Polos are created and removed; their name cannot be used again. -/
theorem removed_category_keeps_name :
    ∃ w, Request.Reached (ShopOp.act plainText hashing) (fun _ _ => True) (world unstocked) w ∧
      ¬ ShopOp.Follows .reusable plainText hashing (createPolosAt 4)
      ((createPolosAt 4).arrive w) := by
  refine ⟨polosRemoved, polosRemoved_reached, fun follows => ?_⟩
  have unused : ∀ c ∈ polosRemoved.db.categories.rows, c.id ≠ polosRemoved.ids 0 := by decide
  have ready : CategoryService.CreateReady plainText (some context) (uuidOut tenantId) polos
      ((createPolosAt 4).arrive polosRemoved) tenantId none :=
    ⟨uuidIn_uuidOut _, by decide, rfl, by decide, by decide, unused,
      ⟨context, _, rfl, rfl, by decide⟩⟩
  have free : ∀ c ∈ polosRemoved.db.categories.rows, c.live = true →
      CategoryService.takes tenantId polos.name
        (CategoryService.newCategorySlug plainText polos) c = false := by decide
  obtain ⟨category, answered⟩ := follows tenantId none ready free
  have refused : ((CategoryService.create plainText (createPolosAt 4).context
      (createPolosAt 4).tenantId polos).runs ((createPolosAt 4).arrive polosRemoved)).1.toBool =
        false := by decide
  rw [answered] at refused
  cases refused

end Tenantory
