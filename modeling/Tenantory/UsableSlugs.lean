import Tenantory.CategoryWrites
import Tenantory.SampleShop
import Tenantory.SlugGrammar

/-! The slugs that categories are stored with. A text in which the slugging finds no letter or
digit leaves an empty slug, which is stored, and which the next such text meets as taken. -/

namespace Tenantory
namespace CategoryService

open Svc SlugText UuidText

variable {platform : Platform} {context : Option AuditContextData} {tenantId id : String}
  {w w' : World}

/-- A slug that fits its column. -/
structure Usable (slug : String) : Prop where
  grammar : slug.toList ∈ slugs
  short : slug.length ≤ 150

/-- In lower case and decomposed, the text has a character of `[a-z0-9]`. -/
def Sluggable (platform : Platform) (text : String) : Prop :=
  ∃ c ∈ decomposed platform text, isSlugChar c = true

theorem generateSlug_eq_empty_iff {text : String} :
    generateSlug platform text = "" ↔ ¬ Sluggable platform text := by
  have lists : generateSlug platform text = "" ↔ slugOf (decomposed platform text) = [] := by
    rw [← String.toList_inj, generateSlug_toList]
    rfl
  rw [lists, slugOf_eq_nil_iff, Sluggable]
  constructor
  · rintro none ⟨c, mem, known⟩
    rw [none c mem] at known
    cases known
  · exact fun none c mem => Bool.eq_false_of_not_eq_true fun known => none ⟨c, mem, known⟩

theorem generateSlug_usable_iff {text : String}
    (fits : (generateSlug platform text).length ≤ 150) :
    Usable (generateSlug platform text) ↔ Sluggable platform text := by
  constructor
  · intro usable
    by_contra lost
    have tidy := (SeparatedWords.mem_words_iff hyphen_apart).mp usable.grammar
    rw [generateSlug_eq_empty_iff.mpr lost] at tidy
    exact tidy.nonempty rfl
  · intro kept
    refine ⟨?_, fits⟩
    rw [generateSlug_toList]
    refine slugOf_slugs fun empty => ?_
    obtain ⟨c, mem, known⟩ := kept
    rw [slugOf_eq_nil_iff.mp empty c mem] at known
    cases known

theorem slug_fits {row : Category} (h : Stored.misfit row = none) : row.slug.length ≤ 150 := by
  have checks : (Stored.fits 120 row.name = true) ∧ Stored.fits 150 row.slug = true := by
    have all := firstError_eq_none.mp h
    simpa using all
  exact of_decide_eq_true checks.2

/-! ## Creations -/

theorem insert_fits {name slug : String} {parent : Option Category} {category : CategoryEntity}
    (h : insert tenantId name slug parent w = .ok (category, w')) : slug.length ≤ 150 := by
  unfold insert at h
  obtain ⟨tenant, ht, rest⟩ := bind_eq_ok.mp h
  obtain ⟨⟨row, w₁⟩, inserted, -⟩ := bind_eq_ok.mp rest
  exact slug_fits ((World.insert_iff _).mp ⟨_, _, inserted⟩).1

theorem insert_stores {name slug : String} {parent : Option Category} {category : CategoryEntity}
    (h : insert tenantId name slug parent w = .ok (category, w')) :
    ∃ row ∈ w'.db.categories, row.id = category.id ∧ row.slug = slug := by
  obtain ⟨tenant, t, -, -, same, rows, rfl⟩ := insert_ok h
  refine ⟨⟨w.ids 0, tenant, name, slug, parent.map (·.id), w.clock, w.clock, none⟩, ?_,
    same.symm, rfl⟩
  change _ ∈ t
  rw [← Table.mem_rows, rows]
  exact List.mem_append_right _ List.mem_cons_self

theorem create_stores {dto : CreateCategoryDto} {category : CategoryEntity}
    (h : (create platform context tenantId dto).runs w = (.ok category, w')) :
    (newCategorySlug platform dto).length ≤ 150 ∧
      ∃ row ∈ w'.db.categories, row.id = category.id ∧
        row.slug = newCategorySlug platform dto := by
  rcases create_cases platform context tenantId dto w with ⟨⟨e, failed⟩, -⟩ |
    ⟨parent, created, w₂, steps, ⟨event, -, done⟩ | ⟨-, failed⟩⟩
  · rw [h] at failed
    cases failed
  · rw [h] at done
    obtain ⟨same, world⟩ := Prod.mk.inj done
    rw [Except.ok.inj same, world]
    obtain ⟨row, mem, stores⟩ := insert_stores steps.inserts
    exact ⟨insert_fits steps.inserts, row, mem, stores⟩
  · rw [h] at failed
    cases (Prod.mk.inj failed).1

/-! ## Updates -/

theorem relinked_slug (entity : CategoryEntity) (db : Database) (now : Timestamp)
    (row : Category) : (entity.relinked db now row).slug = row.slug := by
  unfold CategoryEntity.relinked
  split
  · rfl
  · split <;> rfl

theorem overwrite_slug (entity : CategoryEntity) (now : Timestamp) (row : Category) :
    (overwrite entity now row).slug = entity.slug := by
  obtain ⟨stamp, same⟩ := overwrite_eq entity now row
  rw [same]
  rfl

theorem save_stores {entity saved : CategoryEntity} (h : save entity w = .ok (saved, w')) :
    entity.slug.length ≤ 150 ∧
      ∃ row ∈ w'.db.categories, row.id = saved.id ∧ row.slug = entity.slug := by
  have short : entity.slug.length ≤ 150 := by
    rw [save_eq] at h
    cases found : w.db.rowById Category entity.id with
    | none =>
        rw [found] at h
        cases h
    | some stored =>
        rw [found] at h
        obtain ⟨w₁, first, -⟩ := bind_eq_ok.mp h
        obtain ⟨mem, same⟩ := Database.rowById_eq_some found
        have checks := ((World.update_iff mem same (by
          rw [← same]
          exact overwrite_id entity w.clock stored)).mp ⟨w₁, first⟩).1
        rw [← overwrite_slug entity w.clock stored]
        exact slug_fits checks
  obtain ⟨stored, mem, same, rfl, t₁, t, rows₁, rows, rfl⟩ := save_ok h
  refine ⟨short, entity.relinked w.db w.clock (overwritten entity w.clock stored), ?_, ?_, ?_⟩
  · change _ ∈ t
    rw [← Table.mem_rows, rows, rows₁]
    exact List.mem_map_of_mem (List.mem_map_of_mem mem)
  · rw [CategoryEntity.relinked_id, overwritten_id, same]
  · rw [relinked_slug, overwritten, if_pos same, overwrite_slug]

theorem update_stores {dto : UpdateCategoryDto} {saved : CategoryEntity}
    (h : (update platform context tenantId id dto).runs w = (.ok saved, w')) :
    ∃ target w₁, Finds tenantId id w target w₁ ∧
      (newSlug platform dto target).length ≤ 150 ∧
      ∃ row ∈ w'.db.categories, row.id = saved.id ∧
        row.slug = newSlug platform dto target := by
  rcases update_cases platform context tenantId id dto w with ⟨⟨e, failed⟩, -⟩ |
    ⟨target, w₁, parent, saved', w₂, steps, ⟨w₃, publishes, done⟩ | ⟨-, failed⟩⟩
  · rw [h] at failed
    cases failed
  · rw [h] at done
    obtain ⟨same, world⟩ := Prod.mk.inj done
    rw [Except.ok.inj same, world]
    obtain ⟨short, row, mem, stores⟩ := save_stores steps.saves
    obtain ⟨event, -, rfl⟩ := Option.map_eq_some_iff.mp publishes
    exact ⟨target, w₁, steps.finds, short, row, mem, stores⟩
  · rw [h] at failed
    cases (Prod.mk.inj failed).1

/-- The text that an update slugs, if it has one. -/
def slugText (dto : UpdateCategoryDto) : Option String := dto.slug.truthy.or dto.name.truthy

theorem newSlug_usable_iff {dto : UpdateCategoryDto} {target : CategoryEntity}
    (fits : (newSlug platform dto target).length ≤ 150) :
    Usable (newSlug platform dto target) ↔
      (∀ text, slugText dto = some text → Sluggable platform text) ∧
        (slugText dto = none → Usable target.slug) := by
  revert fits
  unfold newSlug slugText
  cases dto.slug.truthy with
  | some slug =>
      intro fits
      rw [generateSlug_usable_iff fits]
      simp
  | none =>
      cases dto.name.truthy with
      | some name =>
          intro fits
          rw [generateSlug_usable_iff fits]
          simp
      | none => simp

/-! ## Refusals -/

/-- The slug of another live category of the tenant is taken. -/
theorem slugExists_of_mem {tenant : Uuid} {row : Category} {slug : String}
    {excludeId : Option String} (named : uuidIn tenantId = some tenant)
    (mem : row ∈ w.db.categories) (owned : row.tenantId = tenant) (live : row.live = true)
    (same : row.slug = slug)
    (other : ∀ text, excludeId = some text → ∃ i, uuidIn text = some i ∧ i ≠ row.id) :
    slugExists tenantId slug excludeId w = .ok true := by
  unfold slugExists
  rw [uuidParam_eq_ok.mpr named]
  have held : ∀ exclude : Option Uuid, exclude.all (· != row.id) = true →
      (w.db.categories.rows.any fun c => c.tenantId == tenant && c.slug == slug && c.live &&
        exclude.all (· != c.id)) = true := by
    intro exclude free
    refine List.any_eq_true.mpr ⟨row, mem, ?_⟩
    simp [owned, live, same, free]
  cases excludeId with
  | none => exact congrArg Except.ok (held none rfl)
  | some text =>
      obtain ⟨i, known, different⟩ := other text rfl
      change (some <$> uuidParam text >>= fun exclude => pure _ : Except Err Bool) = _
      rw [uuidParam_eq_ok.mpr known]
      exact congrArg Except.ok (held (some i) (by simpa using different))

theorem create_refused {dto : CreateCategoryDto}
    (taken : slugExists tenantId (newCategorySlug platform dto) none w = .ok true) :
    ((create platform context tenantId dto).runs w).1 = .error slugTaken := by
  unfold newCategorySlug at taken
  unfold create assertSlugUnique
  simp only [runs_bind, runs_query, taken]
  rfl

theorem update_refused {dto : UpdateCategoryDto} {target : CategoryEntity} {w₁ : World}
    (finds : Finds tenantId id w target w₁)
    (taken : slugExists tenantId (newSlug platform dto target) (excluded id) w₁ = .ok true) :
    ((update platform context tenantId id dto).runs w).1 = .error slugTaken := by
  unfold update assertSlugUnique
  simp only [runs_bind, finds_iff.mpr finds, follow_ok, runs_query]
  change (follow _ (follow _
    (slugExists tenantId (newSlug platform dto target) (excluded id) w₁, w₁))).1 = _
  rw [taken]
  rfl

/-- A category is refused, and of its name and of the other's nothing was left in slugging. -/
structure LostTogether (platform : Platform) (name other : String)
    (out : Except Err CategoryEntity) : Prop where
  refused : out = .error slugTaken
  lost : ¬ Sluggable platform name
  otherLost : ¬ Sluggable platform other

theorem not_lostTogether_iff {name other : String} {out : Except Err CategoryEntity}
    (refuses : ¬ Sluggable platform name → ¬ Sluggable platform other →
      out = .error slugTaken) :
    ¬ LostTogether platform name other out ↔
      Sluggable platform name ∨ Sluggable platform other := by
  constructor
  · intro apart
    by_contra lost
    rw [not_or] at lost
    exact apart ⟨refuses lost.1 lost.2, lost.1, lost.2⟩
  · rintro (kept | kept) together
    · exact together.lost kept
    · exact together.otherLost kept

/-- A slug is stored usable exactly when there was a letter or digit in the text that was
slugged, or without such a text when the category had a usable one. Two names meet in an empty
slug exactly when neither has a letter or digit. -/
theorem stored_slug_usable_iff (platform : Platform) (context : Option AuditContextData)
    (tenantId : String) (w : World) :
    (∀ dto category w', (create platform context tenantId dto).runs w = (.ok category, w') →
      ∃ row ∈ w'.db.categories, row.id = category.id ∧
        (Usable row.slug ↔ Sluggable platform (dto.slug.truthy.getD dto.name))) ∧
    (∀ id dto saved w', (update platform context tenantId id dto).runs w = (.ok saved, w') →
      ∃ target w₁, Finds tenantId id w target w₁ ∧
        ∃ row ∈ w'.db.categories, row.id = saved.id ∧
          (Usable row.slug ↔ (∀ text, slugText dto = some text → Sluggable platform text) ∧
            (slugText dto = none → Usable target.slug))) ∧
    (∀ row ∈ w.db.categories, uuidIn tenantId = some row.tenantId → row.live = true →
      row.slug = generateSlug platform row.name →
      (∀ dto, dto.slug.truthy = none →
        (¬ LostTogether platform dto.name row.name
            ((create platform context tenantId dto).runs w).1 ↔
          Sluggable platform dto.name ∨ Sluggable platform row.name)) ∧
      (∀ id i dto name target w₁, uuidIn id = some i → i ≠ row.id →
        Finds tenantId id w target w₁ → dto.slug.truthy = none →
          dto.name.truthy = some name →
        (¬ LostTogether platform name row.name
            ((update platform context tenantId id dto).runs w).1 ↔
          Sluggable platform name ∨ Sluggable platform row.name))) := by
  refine ⟨fun dto category w' h => ?_, fun id dto saved w' h => ?_,
    fun row mem named live made => ⟨fun dto unslugged => ?_, ?_⟩⟩
  · obtain ⟨short, row, mem, same, slug⟩ := create_stores h
    refine ⟨row, mem, same, ?_⟩
    rw [slug]
    exact generateSlug_usable_iff short
  · obtain ⟨target, w₁, finds, short, row, mem, same, slug⟩ := update_stores h
    refine ⟨target, w₁, finds, row, mem, same, ?_⟩
    rw [slug]
    exact newSlug_usable_iff short
  · refine not_lostTogether_iff fun lost otherLost => create_refused ?_
    refine slugExists_of_mem named mem rfl live ?_ (fun _ none => by cases none)
    rw [made, generateSlug_eq_empty_iff.mpr otherLost, newCategorySlug, unslugged]
    exact (generateSlug_eq_empty_iff.mpr lost).symm
  · intro id i dto name target w₁ known other finds unslugged renamed
    refine not_lostTogether_iff fun lost otherLost => update_refused finds ?_
    refine slugExists_of_mem named (finds.db ▸ mem) rfl live ?_ ?_
    · rw [made, generateSlug_eq_empty_iff.mpr otherLost, newSlug, unslugged, renamed]
      exact (generateSlug_eq_empty_iff.mpr lost).symm
    · intro text given
      unfold excluded at given
      split at given
      · cases given
      · cases given
        exact ⟨i, known, other⟩

/-- The creation of a category with this name in the sample shop. -/
def createdAs (name : String) : Except Err CategoryEntity × World :=
  (create .ascii (some SampleShop.context) (uuidOut SampleShop.tenantId)
    ⟨name, .undefined, .undefined⟩).runs (SampleShop.world SampleShop.unstocked)

theorem createdAs_ok (name : String) (h : (createdAs name).1.toBool = true) :
    ∃ category w', createdAs name = (.ok category, w') := by
  cases out : createdAs name with
  | mk result w' =>
      cases result with
      | error e =>
          rw [out] at h
          cases h
      | ok category => exact ⟨category, w', rfl⟩

theorem stored_slug_usable_iff_hats : ∃ category w', createdAs "Hats" = (.ok category, w') ∧
    ∃ row ∈ w'.db.categories, row.id = category.id ∧ Usable row.slug := by
  obtain ⟨category, w', created⟩ := createdAs_ok "Hats" (by decide)
  obtain ⟨row, mem, same, usable⟩ := (stored_slug_usable_iff _ _ _ _).1 _ _ _ created
  exact ⟨category, w', created, row, mem, same, usable.mpr ⟨'h', by decide, by decide⟩⟩

/-- A name without a Latin letter or a digit is accepted, and its slug is empty. -/
theorem japan_slug_unusable : ¬ ∀ (platform : Platform) (context : Option AuditContextData)
    (tenantId : String) (dto : CreateCategoryDto) (w : World) (category : CategoryEntity)
    (w' : World), 1 ≤ dto.name.length → dto.name.length ≤ 120 →
      (∀ slug, dto.slug.truthy = some slug → slug.length ≤ 150) →
      (create platform context tenantId dto).runs w = (.ok category, w') →
      ∀ row ∈ w'.db.categories, row.id = category.id → Usable row.slug := by
  intro usable
  obtain ⟨category, w', created⟩ := createdAs_ok "日本" (by decide)
  obtain ⟨short, row, mem, same, slug⟩ := create_stores created
  have stored := usable _ _ _ _ _ _ _ (by decide) (by decide) (fun _ given => by cases given)
    created row mem same
  rw [slug, newCategorySlug, generateSlug_usable_iff short] at stored
  obtain ⟨c, inside, known⟩ := stored
  have kanji : c ∈ ['日', '本'] := inside
  obtain rfl | rfl : c = '日' ∨ c = '本' := by simpa using kanji
  · exact absurd known (by decide)
  · exact absurd known (by decide)

end CategoryService
end Tenantory
