import Tenantory.CategoryTree
import Tenantory.LiveParents
import Tenantory.SampleShop

/-! Removals, interleaved with creations and updates. A removal counts what hangs below the row
in one statement and deletes the row in a later one, a creation or an update looks for a live
parent before it writes; nothing live comes to hang below a deleted row as long as nothing
that a call goes by is changed in between. -/

namespace Tenantory

open Stored Svc UuidText

/-! ## The condition on the schedule -/

/-- A category that was live in one of the states has not been removed since. -/
def CategoryRemains (past : List World) (w : World) (i : Uuid) : Prop :=
  ∀ u ∈ past, (u.db.liveCategory? i).isSome = true →
    ∀ c ∈ w.db.categories.rows, c.id = i → c.live = true

def ProductRemains (past : List World) (w : World) (i : Uuid) : Prop :=
  ∀ u ∈ past, u.db.liveProduct i = true → ∀ p ∈ w.db.products.rows,
    p.id = i → p.live = true

/-- The category is as live as it was, over the same live children, all of its tenant. -/
structure SameChildren (db now : Database) (i : Uuid) : Prop where
  row : (db.liveCategory? i).isSome = (now.liveCategory? i).isSome
  children : (db.liveChildren i).map (·.id) = (now.liveChildren i).map (·.id)
  owner : ∀ c ∈ db.liveChildren i, ∀ r ∈ db.categories.rows, r.id = i →
    c.tenantId = r.tenantId

/-- The product is as live as it was, over the same live variants, all of its tenant. -/
structure SameVariants (db now : Database) (entity : ProductEntity) : Prop where
  row : db.liveProduct entity.id = now.liveProduct entity.id
  variants : (db.liveVariants entity.id).map (·.id) = (now.liveVariants entity.id).map (·.id)
  owner : ∀ v ∈ db.liveVariants entity.id, v.tenantId = entity.tenantId

/-- Since the call's own earlier statements nobody has removed the parent that it looked for,
or has put anything below the row that it removes or taken anything from there. -/
def Unmoved (past : List World) (w : World) : Label → Prop
  | .insert (.variant _ productId _) => ∀ i ∈ uuidIn productId, ProductRemains past w i
  | .insert (.category _ _ _ parentId) => ∀ i ∈ parentId, CategoryRemains past w i
  | .save (.category entity) _ => CategoryRemains past w entity.id ∧
      ∀ i ∈ entity.parentId, CategoryRemains past w i
  | .softRemove (.category entity) _ => ∀ u ∈ past, SameChildren u.db w.db entity.id
  | .softRemove (.product entity) _ => ∀ u ∈ past, SameVariants u.db w.db entity
  | _ => True

/-- The copy is of the row that `findOne` reads, and shows no parent that is gone and no child
that is not below it. -/
structure CategoryService.Shows (db : Database) (tenantId id : String) (copy : CategoryEntity) :
    Prop where
  row : ∃ row, Readable db tenantId id row ∧ copy.id = row.id
  undeleted : copy.deletedAt = none
  parent : ∀ p, copy.parent = some (some p) → (db.liveCategory? p.id).isSome = true
  children : ∀ c ∈ copy.children.getD [], c.id ∈ (db.liveChildren copy.id).map (·.id)

structure ProductService.Shows (db : Database) (tenantId id : String) (copy : ProductEntity) :
    Prop where
  row : ∃ row, Readable db tenantId id row ∧ copy.id = row.id ∧ copy.tenantId = row.tenantId
  variants : ∀ v ∈ copy.variants.getD [], v.id ∈ (db.liveVariants copy.id).map (·.id)

/-- The copies of the saved or removed row that were in the cache when the call began. -/
def CopiesShow (past : List World) : Label → Prop
  | .save (.category entity) _ | .softRemove (.category entity) _ => ∀ u ∈ past.head?,
      ∀ tenantId id copy, u.cached (CacheKeys.category tenantId id) = some (.category copy) →
        copy.id = entity.id → CategoryService.Shows u.db tenantId id copy
  | .softRemove (.product entity) _ => ∀ u ∈ past.head?,
      ∀ tenantId id copy, u.cached (CacheKeys.product tenantId id) = some (.product copy) →
        copy.id = entity.id → ProductService.Shows u.db tenantId id copy
  | _ => True

/-- What the call goes by is what is there when it writes. -/
structure Undisturbed (past : List World) (w : World) (label : Label) : Prop where
  unmoved : Unmoved past w label
  copies : CopiesShow past label

instance (past : List World) (w : World) (i : Uuid) : Decidable (CategoryRemains past w i) := by
  unfold CategoryRemains
  infer_instance

instance (past : List World) (w : World) (i : Uuid) : Decidable (ProductRemains past w i) := by
  unfold ProductRemains
  infer_instance

instance (db now : Database) (i : Uuid) : Decidable (SameChildren db now i) :=
  decidable_of_iff ((db.liveCategory? i).isSome = (now.liveCategory? i).isSome ∧
      (db.liveChildren i).map (·.id) = (now.liveChildren i).map (·.id) ∧
      ∀ c ∈ db.liveChildren i, ∀ r ∈ db.categories.rows, r.id = i →
        c.tenantId = r.tenantId)
    ⟨fun ⟨h, h', h''⟩ => ⟨h, h', h''⟩, fun h => ⟨h.row, h.children, h.owner⟩⟩

instance (db now : Database) (entity : ProductEntity) : Decidable (SameVariants db now entity) :=
  decidable_of_iff (db.liveProduct entity.id = now.liveProduct entity.id ∧
      (db.liveVariants entity.id).map (·.id) = (now.liveVariants entity.id).map (·.id) ∧
      ∀ v ∈ db.liveVariants entity.id, v.tenantId = entity.tenantId)
    ⟨fun ⟨h, h', h''⟩ => ⟨h, h', h''⟩, fun h => ⟨h.row, h.variants, h.owner⟩⟩

instance (past : List World) (w : World) (label : Label) : Decidable (Unmoved past w label) := by
  unfold Unmoved
  split
  · exact Option.decidableForallMem _
  · exact Option.decidableForallMem _
  · exact @instDecidableAnd _ _ inferInstance (Option.decidableForallMem _)
  all_goals infer_instance

/-- What the calls go by. -/
def placingTerms : Terms World Err Label where
  fault := dbFault
  cond := Undisturbed
  good w := NoOrphans w.db
  rely u w := Hung u.db w.db
  refl w := .refl w.db
  holds := StillHolds

theorem lenient_placing : Lenient placingTerms := by
  intro w label quiet
  cases label <;> trivial

/-! ## What the lookups have found -/

section Lookups

variable {tenantId id : String} {past later : List World}

theorem Database.liveCategory?_isSome {db : Database} {i : Uuid} :
    (db.liveCategory? i).isSome = true ↔ ∃ c ∈ db.categories, c.id = i ∧ c.live = true := by
  unfold liveCategory? Table.find?
  rw [List.find?_isSome]
  simp only [Bool.and_eq_true, beq_iff_eq]
  rfl

theorem Database.liveProduct_iff {db : Database} {i : Uuid} :
    db.liveProduct i = true ↔ ∃ p ∈ db.products, p.id = i ∧ p.live = true := by
  unfold liveProduct
  rw [List.any_eq_true]
  simp only [Bool.and_eq_true, beq_iff_eq]
  rfl

namespace CategoryService

/-- The copy has been read from the table, or from the cache with the first statement. -/
def Copied (past : List World) (tenantId id : String) (target : CategoryEntity) : Prop :=
  (∃ u ∈ past, Shows u.db tenantId id target) ∨
    ∃ u ∈ past.head?, u.cached (CacheKeys.category tenantId id) = some (.category target)

theorem Copied.append {target : CategoryEntity} (copied : Copied past tenantId id target) :
    Copied (past ++ later) tenantId id target := by
  rcases copied with ⟨u, seen, shows⟩ | ⟨u, first, cached⟩
  · exact .inl ⟨u, List.mem_append_left _ seen, shows⟩
  · refine .inr ⟨u, ?_, cached⟩
    rw [List.head?_append, Option.mem_def.mp first]
    rfl

theorem Copied.shows {target : CategoryEntity} (copied : Copied past tenantId id target)
    (copies : ∀ u ∈ past.head?, ∀ tenantId id copy,
      u.cached (CacheKeys.category tenantId id) = some (.category copy) → copy.id = target.id →
        Shows u.db tenantId id copy) : ∃ u ∈ past, Shows u.db tenantId id target := by
  rcases copied with seen | ⟨u, first, cached⟩
  · exact seen
  · exact ⟨u, List.mem_of_mem_head? first, copies u first tenantId id target cached rfl⟩

theorem shows_related {db : Database} {row : Category} (readable : Readable db tenantId id row) :
    Shows db tenantId id (CategoryEntity.related db row) := by
  refine ⟨⟨row, readable, rfl⟩, Option.isNone_iff_eq_none.mp readable.live, fun p shown => ?_,
    fun c listed => ?_⟩
  · obtain ⟨c, found, rfl⟩ := Option.map_eq_some_iff.mp (Option.some.inj shown)
    obtain ⟨i, -, found⟩ := Option.bind_eq_some_iff.mp found
    have passes := Table.holds_of_find? found
    rw [Bool.and_eq_true] at passes
    exact Database.liveCategory?_isSome.mpr ⟨c, Table.mem_of_find? found, rfl, passes.2⟩
  · obtain ⟨r, mem, rfl⟩ := List.mem_map.mp listed
    exact List.mem_map_of_mem mem

theorem attests_findOne_copied {post : List World → CategoryEntity → Prop}
    (h : ∀ past target, Copied past tenantId id target → post past target) :
    (findOne tenantId id).Attests placingTerms post [] := by
  refine attests_bind (attests_command lenient_placing rfl (fun u _ => ?_)
    fun _ faulty => faulty.elim)
  cases cached : (u.cached (CacheKeys.category tenantId id)).bind Cached.category? with
  | some target =>
      refine attests_pure (h _ target (.inr ⟨u, rfl, ?_⟩))
      obtain ⟨value, stored, read⟩ := Option.bind_eq_some_iff.mp cached
      cases value <;> cases read
      exact stored
  | none =>
      refine attests_bind (attests_query lenient_placing fun v found _ read => ?_)
      cases found with
      | none => exact attests_throw _
      | some target =>
          obtain ⟨row, readable, rfl⟩ := readOne_ok.mp read
          have copied : Copied ([u] ++ [v]) tenantId id (CategoryEntity.related v.db row) :=
            .inl ⟨v, List.mem_append_right _ List.mem_cons_self, shows_related readable⟩
          exact attests_bind (attests_command lenient_placing rfl
            (fun _ _ => attests_pure (h _ _ copied.append)) fun _ faulty => faulty.elim)

end CategoryService

namespace ProductService

/-- The copy has been read from the table, or from the cache with the first statement. -/
def Copied (past : List World) (tenantId id : String) (product : ProductEntity) : Prop :=
  (∃ u ∈ past, Shows u.db tenantId id product) ∨
    ∃ u ∈ past.head?, u.cached (CacheKeys.product tenantId id) = some (.product product)

theorem Copied.append {product : ProductEntity} (copied : Copied past tenantId id product) :
    Copied (past ++ later) tenantId id product := by
  rcases copied with ⟨u, seen, shows⟩ | ⟨u, first, cached⟩
  · exact .inl ⟨u, List.mem_append_left _ seen, shows⟩
  · refine .inr ⟨u, ?_, cached⟩
    rw [List.head?_append, Option.mem_def.mp first]
    rfl

theorem Copied.shows {product : ProductEntity} (copied : Copied past tenantId id product)
    (copies : ∀ u ∈ past.head?, ∀ tenantId id copy,
      u.cached (CacheKeys.product tenantId id) = some (.product copy) → copy.id = product.id →
        Shows u.db tenantId id copy) : ∃ u ∈ past, Shows u.db tenantId id product := by
  rcases copied with seen | ⟨u, first, cached⟩
  · exact seen
  · exact ⟨u, List.mem_of_mem_head? first, copies u first tenantId id product cached rfl⟩

theorem shows_related {db : Database} {row : Product} (readable : Readable db tenantId id row) :
    Shows db tenantId id (ProductEntity.related db row) :=
  ⟨⟨row, readable, rfl, rfl⟩, fun _ listed => List.mem_map_of_mem listed⟩

theorem attests_findOne_copied {post : List World → ProductEntity → Prop}
    (h : ∀ past product, Copied past tenantId id product → post past product) :
    (findOne tenantId id).Attests placingTerms post [] := by
  refine attests_bind (attests_command lenient_placing rfl (fun u _ => ?_)
    fun _ faulty => faulty.elim)
  cases cached : (u.cached (CacheKeys.product tenantId id)).bind Cached.product? with
  | some product =>
      refine attests_pure (h _ product (.inr ⟨u, rfl, ?_⟩))
      obtain ⟨value, stored, read⟩ := Option.bind_eq_some_iff.mp cached
      cases value <;> cases read
      exact stored
  | none =>
      refine attests_bind (attests_query lenient_placing fun v found _ read => ?_)
      cases found with
      | none => exact attests_throw _
      | some product =>
          obtain ⟨row, readable, rfl⟩ := readOne_ok.mp read
          have copied : Copied ([u] ++ [v]) tenantId id (ProductEntity.related v.db row) :=
            .inl ⟨v, List.mem_append_right _ List.mem_cons_self, shows_related readable⟩
          exact attests_bind (attests_command lenient_placing rfl
            (fun _ _ => attests_pure (h _ _ copied.append)) fun _ faulty => faulty.elim)

end ProductService

/-! ## From the lookups to the statements -/

theorem CategoryRemains.live {w : World} {i : Uuid} (remains : CategoryRemains past w i) {u : World}
    (seen : u ∈ past) (live : (u.db.liveCategory? i).isSome = true) :
    ∀ c ∈ w.db.categories, c.id = i → c.live = true := fun c mem same =>
  remains u seen live c mem same

namespace CategoryService

/-- Nothing live was below the category when the children were counted. -/
theorem no_children {u v : World} {target : CategoryEntity} (shows : Shows u.db tenantId id target)
    (counted : countChildren tenantId id v = .ok 0) (hung : Hung u.db v.db)
    (same : (v.db.liveCategory? target.id).isSome = true)
    (owner : ∀ c ∈ v.db.liveChildren target.id, ∀ r ∈ v.db.categories.rows,
      r.id = target.id →
      c.tenantId = r.tenantId) : v.db.liveChildren target.id = [] := by
  obtain ⟨row, readable, named⟩ := shows.row
  obtain ⟨r, mem, same_id, owned⟩ := hung.owners row readable.stored
  unfold countChildren at counted
  rw [uuidParam_eq_ok.mpr readable.named, uuidParam_eq_ok.mpr readable.owned] at counted
  have none := List.eq_nil_of_length_eq_zero (Except.ok.inj counted)
  refine List.eq_nil_iff_forall_not_mem.mpr fun c below => ?_
  have tenant := owner c below r mem (same_id.trans named.symm)
  obtain ⟨stored, passes⟩ := List.mem_filter.mp below
  rw [Bool.and_eq_true, beq_iff_eq] at passes
  refine List.filter_eq_nil_iff.mp none c stored ?_
  have open_ : v.db.liveTenant row.tenantId = true := by
    have before := readable.tenant
    unfold Database.liveTenant at before ⊢
    rwa [hung.tenants]
  simp only [Bool.and_eq_true, beq_iff_eq]
  exact ⟨⟨⟨⟨named ▸ passes.1, named ▸ same⟩, tenant.trans owned⟩, open_⟩,
    passes.2⟩

/-- Nothing comes below the category with its removal. -/
theorem still_childless {u v w : World} {loaded : Database} {target : CategoryEntity}
    (shows : Shows u.db tenantId id target) (before : SameChildren u.db w.db target.id)
    (counted : SameChildren v.db w.db target.id) (none : v.db.liveChildren target.id = []) :
    StillHolds w (.softRemove (.category target) loaded) := by
  have childless : (w.db.liveChildren target.id).map (·.id) = [] := by
    rw [← counted.children, none]
    rfl
  intro c mem live apart below
  rcases relinked_below below with ⟨listed, -⟩ | kept
  · obtain ⟨d, bound, -⟩ := List.any_eq_true.mp listed
    have shown := shows.children d (List.mem_of_mem_filter bound)
    rw [before.children, childless] at shown
    cases shown
  · have listed : c.id ∈ (w.db.liveChildren target.id).map (·.id) :=
      List.mem_map_of_mem (f := fun c : Category => c.id)
        (List.mem_filter.mpr ⟨mem, by simp [kept, live]⟩)
    rw [childless] at listed
    cases listed

theorem remove_attests (context : Option AuditContextData) :
    (remove context tenantId id).Attests placingTerms (fun _ _ => True) [] := by
  refine attests_bind (attests_findOne_copied fun past target copied => ?_)
  refine attests_bind (attests_query lenient_placing fun v count met counted => ?_)
  refine attests_ite (fun _ => attests_throw _) fun few => ?_
  obtain rfl : count = 0 := Nat.eq_zero_of_not_pos few
  refine attests_bind (attests_softRemoving lenient_placing fun x w _ met' =>
    ⟨?_, fun _ _ _ => ?_⟩)
  · obtain ⟨u, seen, shows⟩ := copied.shows fun u first => met'.cond.copies u (by
      rw [List.head?_append, List.head?_append, Option.mem_def.mp first]
      rfl)
    have unmoved : ∀ u ∈ past ++ [v], SameChildren u.db w.db target.id := fun u seen =>
      met'.cond.unmoved u (List.mem_append_left _ seen)
    have first := unmoved u (List.mem_append_left _ seen)
    have then_ := unmoved v (List.mem_append_right _ List.mem_cons_self)
    refine still_childless shows first then_
      (no_children shows counted (met.relied u seen) ?_ then_.owner)
    obtain ⟨row, readable, named⟩ := shows.row
    rw [then_.row, ← first.row]
    exact Database.liveCategory?_isSome.mpr ⟨row, readable.stored, named.symm, readable.live⟩
  · refine attests_bind ((attests_record lenient_placing _ _).mono fun _ _ _ => ?_)
    refine attests_bind ((attests_del lenient_placing _).mono fun _ _ _ => ?_)
    exact attests_bind ((attests_delByPattern lenient_placing _).mono fun _ _ _ =>
      attests_delByPattern lenient_placing _)

/-- A parent that has been looked for is there, live, in one of the states. -/
def ParentSeen (past : List World) (parent : Option Uuid) : Prop :=
  ∀ i, parent = some i → ∃ u ∈ past, (u.db.liveCategory? i).isSome = true

theorem attests_assertParentExists {post : List World → Category → Prop} {parentId : String}
    (h : ∀ u parent, (u.db.liveCategory? parent.id).isSome = true → post (past ++ [u]) parent) :
    (assertParentExists tenantId parentId).Attests placingTerms post past := by
  refine attests_bind (attests_query lenient_placing fun u found _ read => ?_)
  cases found with
  | none => exact attests_throw _
  | some parent =>
      refine attests_pure (h u parent ?_)
      obtain ⟨i, -, read⟩ := bind_eq_ok.mp read
      obtain ⟨tenant, -, read⟩ := bind_eq_ok.mp read
      have found := Except.ok.inj read
      have passes := Table.holds_of_find? found
      rw [Bool.and_eq_true] at passes
      exact Database.liveCategory?_isSome.mpr ⟨parent, Table.mem_of_find? found, rfl, passes.2⟩

theorem attests_assertSlugUnique {post : List World → Unit → Prop} {slug : String}
    {excludeId : Option String} (h : ∀ u, post (past ++ [u]) ()) :
    (assertSlugUnique tenantId slug excludeId).Attests placingTerms post past :=
  attests_bind (attests_query lenient_placing fun u _ _ _ =>
    attests_ite (fun _ => attests_throw _) fun _ => attests_pure (h u))

theorem create_attests (platform : Platform) (context : Option AuditContextData)
    (dto : CreateCategoryDto) :
    (create platform context tenantId dto).Attests placingTerms (fun _ _ => True) [] := by
  refine attests_bind (attests_assertSlugUnique fun v => ?_)
  have found : (dto.parentId.truthy.mapM (assertParentExists tenantId)).Attests placingTerms
      (fun past parent => ParentSeen past (parent.map (·.id))) ([] ++ [v]) := by
    cases dto.parentId.truthy with
    | none => exact attests_pure fun i none => nomatch none
    | some parentId =>
        refine attests_map (attests_assertParentExists fun u parent live => ?_)
        rintro i ⟨⟩
        exact ⟨u, List.mem_append_right _ List.mem_cons_self, live⟩
  refine attests_bind (found.mono fun past parent seen => attests_translated _
    (attests_bind (attests_statement fun w met => ⟨fun p mem named => ?_, fun _ _ _ => ?_⟩)))
  · obtain ⟨u, seen, live⟩ := seen p.id named
    exact (met.cond.unmoved p.id named) u seen live p mem rfl
  · refine attests_bind ((attests_record lenient_placing _ _).mono fun _ _ _ => ?_)
    refine attests_bind
      (attests_bind ((attests_delByPattern lenient_placing _).mono fun _ _ _ => ?_))
    exact (attests_delByPattern lenient_placing _).mono fun _ _ _ => attests_pure trivial

/-- The parent of an update is that of the copy, none, or one that has been looked for. -/
theorem attests_chooseParent {post : List World → Option (Option CategoryColumns) → Prop}
    {parentId : Property String} {current : Option (Option CategoryColumns)}
    (kept : post past current) (cleared : post past (some none))
    (found : ∀ u (p : CategoryColumns), (u.db.liveCategory? p.id).isSome = true →
      post (past ++ [u]) (some (some p))) :
    (chooseParent tenantId id parentId current).Attests placingTerms post past := by
  cases parentId with
  | undefined => exact attests_pure kept
  | null => exact attests_pure cleared
  | value parentId =>
      exact attests_ite (fun _ => attests_throw _) fun _ =>
        attests_ite (fun _ => attests_pure cleared) fun _ => attests_bind
          (attests_assertParentExists fun u parent live =>
            attests_pure (found u parent.columns live))

/-- The save of a copy that was current, under a parent that is still there. -/
theorem savedBelow {u w : World} {loaded : Database} {target : CategoryEntity}
    {parent : Option (Option CategoryColumns)} {name slug : String}
    (shows : Shows u.db tenantId id target) (seen : u ∈ past)
    (remains : CategoryRemains past w target.id)
    (parents : ∀ p, parent = some (some p) →
      (∃ u ∈ past, (u.db.liveCategory? p.id).isSome = true) ∧
      CategoryRemains past w p.id) :
    StillHolds w (.save (.category { target with name, slug, parent }) loaded) := by
  intro stored _ row mem own
  obtain ⟨before, readable, named⟩ := shows.row
  have live : row.live = true := remains u seen (Database.liveCategory?_isSome.mpr
    ⟨before, readable.stored, named.symm, readable.live⟩) row mem own
  refine ⟨shows.undeleted, fun _ moved p hp _ below => ?_, fun _ _ _ _ =>
    merge_written_live shows.undeleted live⟩
  have moved := moved live
  change column (written _ stored).parentId stored.parentId row.parentId = some p.id at below
  change row.parentId ≠ column (written _ stored).parentId stored.parentId row.parentId at moved
  unfold column at below moved
  split at below
  · rename_i same
    rw [if_pos same] at moved
    exact absurd rfl moved
  · rename_i differs
    cases parent with
    | none => exact absurd rfl differs
    | some chosen =>
        cases chosen with
        | none => cases below
        | some q =>
            obtain ⟨⟨v, seen, alive⟩, remains⟩ := parents q rfl
            exact remains v seen alive p hp (Option.some.inj below).symm

theorem update_attests (platform : Platform) (context : Option AuditContextData)
    (dto : UpdateCategoryDto) :
    (update platform context tenantId id dto).Attests placingTerms (fun _ _ => True) [] := by
  refine attests_bind (attests_findOne_copied fun past target copied => ?_)
  refine attests_bind (attests_assertSlugUnique fun v => ?_)
  have saved :
    ∀ (past : List World) (parent : Option (Option CategoryColumns)) (name slug : String),
      Copied past tenantId id target →
      (∀ p, parent = some (some p) → parent = target.parent ∨
        ∃ u ∈ past, (u.db.liveCategory? p.id).isSome = true) →
      (translated slugTaken do
        let edited := { target with name, slug, parent }
        let saved ← saving (.category edited) (saveLoaded edited)
        AuditService.record context (updateAudit target saved)
        CacheService.del (CacheKeys.category tenantId id)
        invalidateCollections tenantId
        pure saved).Attests placingTerms (fun _ _ => True) past := by
    intro past parent name slug copied chosen
    refine attests_translated _ (attests_bind (attests_saving lenient_placing
      fun x w _ met => ⟨?_, fun _ _ _ => ?_⟩))
    · obtain ⟨u, seen, shows⟩ := copied.shows fun u first => met.cond.copies u (by
        rw [List.head?_append, Option.mem_def.mp first]
        rfl)
      obtain ⟨remains, parents⟩ := met.cond.unmoved
      refine savedBelow shows (List.mem_append_left _ seen) remains fun p same =>
        ⟨?_, parents p.id ?_⟩
      · rcases chosen p same with copy | ⟨u, seen, live⟩
        · exact ⟨u, List.mem_append_left _ seen, shows.parent p (copy.symm.trans same)⟩
        · exact ⟨u, List.mem_append_left _ seen, live⟩
      · subst same
        rfl
    · refine attests_bind ((attests_record lenient_placing _ _).mono fun _ _ _ => ?_)
      refine attests_bind ((attests_del lenient_placing _).mono fun _ _ _ => ?_)
      refine attests_bind (attests_bind ((attests_delByPattern lenient_placing _).mono
        fun _ _ _ => ?_))
      exact (attests_delByPattern lenient_placing _).mono fun _ _ _ => attests_pure trivial
  refine attests_bind (attests_chooseParent ?_ ?_ fun u p live => ?_)
  · exact saved _ _ _ _ copied.append fun _ _ => .inl rfl
  · exact saved _ _ _ _ copied.append fun _ none => nomatch none
  · refine saved _ _ _ _ copied.append.append fun q same => .inr
      ⟨u, List.mem_append_right _ List.mem_cons_self, ?_⟩
    cases same
    exact live

end CategoryService

namespace ProductService

/-- Nothing live was below the product when the variants were counted. -/
theorem no_variants {u v : World} {product : ProductEntity} (shows : Shows u.db tenantId id product)
    (counted : countVariants tenantId product.id v = .ok 0) (hung : Hung u.db v.db)
    (same : v.db.liveProduct product.id = true)
    (owner : ∀ r ∈ v.db.liveVariants product.id, r.tenantId = product.tenantId) :
    v.db.liveVariants product.id = [] := by
  obtain ⟨row, readable, named, owned⟩ := shows.row
  unfold countVariants at counted
  rw [uuidParam_eq_ok.mpr readable.owned] at counted
  have none := List.eq_nil_of_length_eq_zero (Except.ok.inj counted)
  refine List.eq_nil_iff_forall_not_mem.mpr fun r below => ?_
  have tenant := (owner r below).trans owned
  obtain ⟨stored, passes⟩ := List.mem_filter.mp below
  rw [Bool.and_eq_true, beq_iff_eq] at passes
  refine List.filter_eq_nil_iff.mp none r stored ?_
  have open_ : v.db.liveTenant row.tenantId = true := by
    have before := readable.tenant
    unfold Database.liveTenant at before ⊢
    rwa [hung.tenants]
  simp only [Bool.and_eq_true, beq_iff_eq]
  exact ⟨⟨⟨⟨passes.1, same⟩, tenant⟩, open_⟩, passes.2⟩

/-- Nothing comes below the product with its removal. -/
theorem still_unsold {u v w : World} {loaded : Database} {product : ProductEntity}
    (shows : Shows u.db tenantId id product) (before : SameVariants u.db w.db product)
    (counted : SameVariants v.db w.db product) (none : v.db.liveVariants product.id = []) :
    StillHolds w (.softRemove (.product product) loaded) := by
  have unsold : (w.db.liveVariants product.id).map (·.id) = [] := by
    rw [← counted.variants, none]
    rfl
  intro r mem live below
  unfold ProductEntity.relinked at below
  split at below
  · rename_i listed
    obtain ⟨d, bound, -⟩ := List.any_eq_true.mp listed
    have shown := shows.variants d (List.mem_of_mem_filter bound)
    rw [before.variants, unsold] at shown
    cases shown
  · have listed : r.id ∈ (w.db.liveVariants product.id).map (·.id) :=
      List.mem_map_of_mem (f := fun r : ProductVariant => r.id)
        (List.mem_filter.mpr ⟨mem, by simp [below, live]⟩)
    rw [unsold] at listed
    cases listed

theorem remove_attests (context : Option AuditContextData) :
    (remove context tenantId id).Attests placingTerms (fun _ _ => True) [] := by
  refine attests_bind (attests_findOne_copied fun past product copied => ?_)
  refine attests_bind (attests_query lenient_placing fun v count met counted => ?_)
  refine attests_ite (fun _ => attests_throw _) fun few => ?_
  obtain rfl : count = 0 := Nat.eq_zero_of_not_pos few
  refine attests_bind (attests_softRemoving lenient_placing fun x w _ met' =>
    ⟨?_, fun _ _ _ => ?_⟩)
  · obtain ⟨u, seen, shows⟩ := copied.shows fun u first => met'.cond.copies u (by
      rw [List.head?_append, List.head?_append, Option.mem_def.mp first]
      rfl)
    have unmoved : ∀ u ∈ past ++ [v], SameVariants u.db w.db product := fun u seen =>
      met'.cond.unmoved u (List.mem_append_left _ seen)
    have first := unmoved u (List.mem_append_left _ seen)
    have then_ := unmoved v (List.mem_append_right _ List.mem_cons_self)
    refine still_unsold shows first then_
      (no_variants shows counted (met.relied u seen) ?_ then_.owner)
    obtain ⟨row, readable, named, -⟩ := shows.row
    rw [then_.row, ← first.row]
    exact Database.liveProduct_iff.mpr ⟨row, readable.stored, named.symm, readable.live⟩
  · refine attests_bind ((attests_record lenient_placing _ _).mono fun _ _ _ => ?_)
    exact attests_bind ((attests_del lenient_placing _).mono fun _ _ _ =>
      attests_delByPattern lenient_placing _)

end ProductService

namespace VariantService

theorem create_attests (context : Option AuditContextData) (productId : String)
    (dto : CreateVariantDto) :
    (create context tenantId productId dto).Attests placingTerms (fun _ _ => True) [] := by
  refine attests_bind (attests_bind (attests_query lenient_placing fun u found _ read => ?_))
  cases found with
  | none => exact attests_throw _
  | some product =>
      obtain ⟨i, hi, read⟩ := bind_eq_ok.mp read
      obtain ⟨tenant, -, read⟩ := bind_eq_ok.mp read
      have found := Except.ok.inj read
      have passes := Table.holds_of_find? found
      simp only [Bool.and_eq_true, beq_iff_eq] at passes
      have named := uuidParam_eq_ok.mp hi
      refine attests_pure (attests_bind (attests_bind (attests_query lenient_placing fun _ _ _ _ =>
        attests_ite (fun _ => attests_throw _) fun _ => attests_pure (attests_translated _
          (attests_bind (attests_statement fun w met =>
            ⟨fun p mem same => ?_, fun _ _ _ => ?_⟩))))))
      · refine met.cond.unmoved p.id same u (by simp) (Database.liveProduct_iff.mpr
          ⟨product, Table.mem_of_find? found, ?_, passes.2⟩) p mem rfl
        exact passes.1.1.1.trans (Option.some.inj (named.symm.trans same))
      · exact attests_bind ((attests_record lenient_placing _ _).mono fun _ _ _ =>
          attests_pure trivial)

end VariantService

end Lookups

/-! ## Interleavings -/

/-- A call that removes a product or a category, or puts a variant or a category below one. -/
inductive PlacingCall
  | removeProduct (tenantId id : String)
  | createVariant (tenantId productId : String) (dto : CreateVariantDto)
  | removeCategory (tenantId id : String)
  | createCategory (tenantId : String) (dto : CreateCategoryDto)
  | updateCategory (tenantId id : String) (dto : UpdateCategoryDto)

def PlacingCall.program (platform : Platform) (context : Option AuditContextData) :
    PlacingCall → Svc Unit
  | removeProduct tenantId id => ProductService.remove context tenantId id
  | createVariant tenantId productId dto =>
      discard <| VariantService.create context tenantId productId dto
  | removeCategory tenantId id => CategoryService.remove context tenantId id
  | createCategory tenantId dto => discard <| CategoryService.create platform context tenantId dto
  | updateCategory tenantId id dto =>
      discard <| CategoryService.update platform context tenantId id dto

theorem PlacingCall.keepsBelow (platform : Platform) (context : Option AuditContextData)
    (call : PlacingCall) : KeepsBelow (call.program platform context) := by
  intro db
  cases call with
  | removeProduct tenantId id => exact ProductService.remove_below db
  | createVariant tenantId productId dto => exact keeps_map _ (VariantService.create_below dto db)
  | removeCategory tenantId id => exact CategoryService.remove_below db
  | createCategory tenantId dto =>
      exact keeps_map _ (CategoryService.create_below platform dto db)
  | updateCategory tenantId id dto =>
      exact keeps_map _ (CategoryService.update_below platform dto db)

theorem PlacingCall.attests (platform : Platform) (context : Option AuditContextData)
    (call : PlacingCall) :
    (call.program platform context).Attests placingTerms (fun _ _ => True) [] := by
  cases call with
  | removeProduct tenantId id => exact ProductService.remove_attests context
  | createVariant tenantId productId dto =>
      exact attests_map (VariantService.create_attests context productId dto)
  | removeCategory tenantId id => exact CategoryService.remove_attests context
  | createCategory tenantId dto =>
      exact attests_map (CategoryService.create_attests platform context dto)
  | updateCategory tenantId id dto =>
      exact attests_map (CategoryService.update_attests platform context dto)

/-- Calls with their audit contexts, none of which has begun. -/
def placingPool {ι : Type} (platform : Platform)
    (calls : ι → Option AuditContextData × PlacingCall)
    (w : World) : Pool World Err Label ι (Except Err Unit) :=
  ⟨w, fun i => ((calls i).2.program platform (calls i).1).run⟩

/-- However many removals, creations and updates interleave: as long as nobody else moves what
a call goes by before it writes, nothing live hangs below a deleted row. -/
theorem removals_leave_no_orphans {ι : Type} [DecidableEq ι] (platform : Platform)
    (calls : ι → Option AuditContextData × PlacingCall) (w : World) (below : NoOrphans w.db)
    (past : ι → List World) (c : Pool World Err Label ι (Except Err Unit))
    (run : Pool.Traced dbFault Undisturbed (placingPool platform calls w) past c) :
    NoOrphans c.state.db := by
  have start : (placingPool platform calls w).Attesting placingTerms fun _ => [] := {
    state := below
    relied := fun _ _ seen => nomatch seen
    keeps := fun i => Prog.guarded_of_steps (R := fun u v : World => Hung u.db v.db)
      (fun u => .refl u.db) (fun step below => step.below below)
      fun u => (calls i).2.keepsBelow platform (calls i).1 u.db
    relies := fun u i => (calls i).2.keepsBelow platform (calls i).1 u.db
    attests := fun i => Prog.Attests.mono ((calls i).2.attests platform (calls i).1)
      fun _ _ _ => trivial }
  exact (Pool.attesting_traced start run).2.state

namespace SampleShop

/-- The shop without its variant. -/
def unsold : World := world { unstocked with variants := ⟨[], List.Pairwise.nil⟩ }

/-- A first variant of a product, and the removal of the product. -/
def variantAndRemoval : Fin 2 → Option AuditContextData × PlacingCall
  | 0 => (context, .createVariant (uuidOut tenantId) (uuidOut productId)
      ⟨"TSH-RED-S", 20, .undefined⟩)
  | 1 => (context, .removeProduct (uuidOut tenantId) (uuidOut productId))

/-- A removal looks into the cache before anything has been put there. -/
def uncached (past : List World) (w : World) (label : Label) : Bool :=
  past.head?.all (fun u => u.cache.isEmpty) && decide (Unmoved past w label)

theorem undisturbed_of_uncached {past : List World} {w : World} {label : Label}
    (h : uncached past w label = true) : Undisturbed past w label := by
  rw [uncached, Bool.and_eq_true, decide_eq_true_eq] at h
  obtain ⟨fresh, unmoved⟩ := h
  have none : ∀ u ∈ past.head?, ∀ key, u.cached key = none := fun u first key => by
    rw [Option.mem_def.mp first, Option.all_some, List.isEmpty_iff] at fresh
    simp [World.cached, fresh]
  refine ⟨unmoved, ?_⟩
  unfold CopiesShow
  split
  all_goals first
    | trivial
    | exact fun u first _ _ _ cached => nomatch (none u first _).symm.trans cached

def liveRows (c : Pool World Err Label (Fin 2) (Except Err Unit)) : List Bool × List Bool :=
  (c.state.db.products.rows.map Product.live, c.state.db.variants.rows.map ProductVariant.live)

/-- The removal reads the product before the variant is inserted, and counts it then. -/
theorem variant_inserted_first : (Pool.scheduleTraced uncached (fun _ => [])
      (placingPool plainText variantAndRemoval unsold) [0, 1, 1, 0, 0, 1, 1, 0]).map liveRows =
    some ([true], [true]) := by decide +kernel

/-- The creation finds the product, which is removed before the variant is inserted. -/
theorem variant_inserted_last : ((placingPool plainText variantAndRemoval unsold).schedule
      (fun _ _ _ => true) [0, 0, 1, 1, 1, 1, 1, 1, 0, 0, 1, 1, 1]).map
        (fun c => (decide (NoOrphans c.state.db), Pool.result? (c.progs 0),
          Pool.result? (c.progs 1))) =
    some (false, some (.ok ()), some (.ok ())) := by decide +kernel

end SampleShop

theorem removals_leave_no_orphans_counted : ∃ past c, Pool.Traced dbFault Undisturbed
    (placingPool SampleShop.plainText SampleShop.variantAndRemoval SampleShop.unsold) past c ∧
    SampleShop.liveRows c = ([true], [true]) ∧ NoOrphans c.state.db := by
  obtain ⟨past, c, run, seen⟩ := Pool.exists_of_scheduleTraced SampleShop.variant_inserted_first
  have met : Pool.Traced dbFault Undisturbed _ past c :=
    run.mono fun _ _ _ => SampleShop.undisturbed_of_uncached
  exact ⟨past, c, met, seen, removals_leave_no_orphans _ _ _ (by decide) past c met⟩

/-- Both calls resolve, and a live variant belongs to a removed product. -/
theorem variant_of_removed_product : ∃ c, Pool.Reach dbFault (fun _ _ _ => True)
    (placingPool SampleShop.plainText SampleShop.variantAndRemoval SampleShop.unsold) c ∧
      NoOrphans SampleShop.unsold.db ∧ (∀ i, c.progs i = .ret (.ok ())) ∧
        ¬ NoOrphans c.state.db := by
  obtain ⟨c, run, seen⟩ := Pool.exists_of_schedule SampleShop.variant_inserted_last
  obtain ⟨orphan, answers⟩ := Prod.mk.inj seen
  obtain ⟨first, second⟩ := Prod.mk.inj answers
  refine ⟨c, run.mono fun _ _ _ _ => trivial, by decide, fun i => ?_, of_decide_eq_false orphan⟩
  match i with
  | 0 => exact Pool.result?_eq_some.mp first
  | 1 => exact Pool.result?_eq_some.mp second

end Tenantory
