import Tenantory.CategoryTree
import Tenantory.StoredRows

/-! Fuzzy search over the products and variants of a tenant. -/

namespace Tenantory

inductive SearchType
  | product | variant | all
  deriving DecidableEq

/-- A query as the validators accept it. -/
structure SearchQueryDto where
  q : String
  limit : Option { n : ℕ // 1 ≤ n ∧ n ≤ 50 }
  type : Option SearchType
  categoryId : Option String

structure Hit (ρ : Type) where
  score : ℚ
  item : ρ

structure SearchResultDto where
  products : Option (List (Hit Product))
  variants : Option (List (Hit ProductVariant))
  type : SearchType

namespace SearchService

def similarityThreshold : ℚ := 1 / 10

/-- The rows of a query that orders by similarity, with what it adds to their columns. -/
def scored {ρ : Type} [Entity ρ] (platform : Platform) (ties : Uuid → ℕ) (limit : ℕ)
    (score : ρ → ℚ) (rows : List ρ) : List ρ × List (Uuid × ℚ) :=
  let entities := (platform.orderBy ties .desc (fun r => .number (score r)) rows).take limit
  (entities, entities.map fun r => (Entity.id r, score r))

/-- `new Map(raw).get(id)`: a later entry replaces an earlier one. -/
def scoreById (raw : List (Uuid × ℚ)) (id : Uuid) : Option ℚ :=
  (raw.reverse.find? fun row => row.1 == id).map Prod.snd

def hits {ρ : Type} [Entity ρ] (found : List ρ × List (Uuid × ℚ)) : List (Hit ρ) :=
  found.1.map fun r => { score := (scoreById found.2 (Entity.id r)).getD 0, item := r }

/-- `similarity` is that of pg_trgm, as the server prints it: the shortest decimal of the `real`, in
the order of the values. -/
def searchProducts (similarity : String → String → ℚ) (platform : Platform)
    (tenantId : String)
    (dto : SearchQueryDto) (limit : ℕ) (ties : Uuid → ℕ) (w : World) :
    Except Err (List (Hit Product)) := do
  let tenant ← uuidParam tenantId
  let category ← (dto.categoryId.filter (· ≠ "")).mapM uuidParam
  let rows := w.db.products.select fun p =>
    p.tenantId == tenant && p.live && decide (similarityThreshold < similarity p.name dto.q) &&
      category.all (· == p.categoryId)
  pure (hits (scored platform ties limit (fun p => similarity p.name dto.q) rows))

def searchVariants (similarity : String → String → ℚ) (platform : Platform)
    (tenantId : String)
    (dto : SearchQueryDto) (limit : ℕ) (ties : Uuid → ℕ) (w : World) :
    Except Err (List (Hit ProductVariant)) := do
  let tenant ← uuidParam tenantId
  let rows := w.db.variants.select fun v =>
    v.tenantId == tenant && v.live && decide (similarityThreshold < similarity v.sku dto.q)
  pure (hits (scored platform ties limit (fun v => similarity v.sku dto.q) rows))

/-- A part of the result that is left out unless it is asked for. -/
def part {ρ : Type} (asked : Bool) (read : (Uuid → ℕ) → World →
    Except Err (List (Hit ρ))) :
    Svc (Option (List (Hit ρ))) :=
  if asked then some <$> listing read else pure none

def search (similarity : String → String → ℚ) (platform : Platform) (tenantId : String)
    (dto : SearchQueryDto) : Svc SearchResultDto := do
  let limit := (dto.limit.map Subtype.val).getD 10
  let products ← part (dto.type = some .all || dto.type = some .product)
    (searchProducts similarity platform tenantId dto limit)
  let variants ← part (dto.type = some .all || dto.type = some .variant)
    (searchVariants similarity platform tenantId dto limit)
  pure { products, variants, type := dto.type.getD .all }

end SearchService

/-! ## The best hits -/

/-- The hits are the rows that are wanted, or the best of them where there are more than the
limit: best first, each once and with its own score. -/
structure BestHits {ρ : Type} [Constrained ρ] (wanted : ρ → Prop)
    (score : ρ → ℚ) (limit : ℕ)
    (t : Table ρ) (hits : List (Hit ρ)) : Prop where
  sound : ∀ h ∈ hits, h.item ∈ t ∧ wanted h.item ∧ h.score = score h.item
  sorted : hits.Pairwise fun h k => k.score ≤ h.score
  once : (hits.map Hit.item).Nodup
  fits : hits.length ≤ limit
  complete : ∀ r ∈ t, wanted r →
    (∃ h ∈ hits, h.item = r) ∨ hits.length = limit ∧ ∀ h ∈ hits, score r ≤ h.score

namespace SearchService

variable {ρ : Type} [Entity ρ] {platform : Platform} {ties : Uuid → ℕ} {limit : ℕ}
  {score : ρ → ℚ}
  {rows : List ρ}

/-- Higher scores come first, whatever the collation of the server. -/
theorem pairwise_scored : (platform.orderBy ties .desc (fun r => .number (score r)) rows).Pairwise
    fun r s => score s ≤ score r := by
  have precedes (r s : ρ) : platform.precedes ties .desc (fun r => .number (score r))
    r s = true ↔
      score s ≤ score r ∧ (score r ≤ score s →
        ties (Entity.id r) ≤ ties (Entity.id s)) := by
    simp only [Platform.precedes, Platform.le, Bool.and_eq_true, Bool.or_eq_true,
      Bool.not_eq_true', decide_eq_true_eq, decide_eq_false_iff_not]
    tauto
  have total : Std.Total fun r s : ρ =>
      platform.precedes ties .desc (fun r => .number (score r)) r s = true := ⟨fun r s => by
    rw [precedes, precedes]
    have scores := le_total (score r) (score s)
    have ranks := Nat.le_total (ties (Entity.id r)) (ties (Entity.id s))
    grind⟩
  have trans : IsTrans ρ fun r s =>
      platform.precedes ties .desc (fun r => .number (score r)) r s = true := ⟨fun r s t => by
    rw [precedes, precedes, precedes]
    grind⟩
  exact (List.pairwise_insertionSort _ rows).imp fun {r s} first => ((precedes r s).mp first).1

/-- The raw rows have the score of each entity under its id. -/
theorem scoreById_of_mem {entities : List ρ} (distinct : (entities.map Entity.id).Nodup) {r : ρ}
    (mem : r ∈ entities) :
    scoreById (entities.map fun r => (Entity.id r, score r)) (Entity.id r) = some (score r) := by
  unfold scoreById
  rw [← List.map_reverse, List.find?_map]
  cases found : entities.reverse.find? ((fun row => row.1 == Entity.id r) ∘
      fun r => (Entity.id r, score r)) with
  | none =>
      have missing := List.find?_eq_none.mp found r (List.mem_reverse.mpr mem)
      simp at missing
  | some s =>
      have named : Entity.id s = Entity.id r := by simpa using List.find?_some found
      have there := List.mem_reverse.mp (List.mem_of_find?_eq_some found)
      rw [List.inj_on_of_nodup_map distinct there mem named]
      rfl

theorem hits_scored {entities : List ρ} (distinct : (entities.map Entity.id).Nodup) :
    hits (entities, entities.map fun r => (Entity.id r, score r)) =
      entities.map fun r => { score := score r, item := r } :=
  List.map_congr_left fun r mem => by rw [scoreById_of_mem distinct mem, Option.getD_some]

/-- What comes of ORDER BY and LIMIT over the rows that are wanted. -/
theorem bestHits_scored {t : Table ρ} {p : ρ → Bool} {wanted : ρ → Prop}
    (selects : ∀ r, p r = true ↔ wanted r) :
    BestHits wanted score limit t (hits (scored platform ties limit score (t.select p))) := by
  have perm := perm_orderBy platform ties .desc (fun r => .number (score r)) (t.select p)
  have sorted : (platform.orderBy ties .desc (fun r => .number (score r)) (t.select p)).Pairwise
      fun r s => score s ≤ score r := pairwise_scored
  unfold scored
  generalize platform.orderBy ties .desc (fun r => .number (score r)) (t.select p) = ranked
    at perm sorted ⊢
  have ids : (ranked.map Entity.id).Nodup := (perm.map Entity.id).nodup_iff.mpr (nodup_ids t p)
  have distinct : ((ranked.take limit).map Entity.id).Nodup :=
    ids.sublist ((List.take_sublist limit ranked).map _)
  have chosen {r : ρ} (mem : r ∈ ranked) : r ∈ t ∧ wanted r := by
    obtain ⟨stored, passes⟩ := List.mem_filter.mp (perm.mem_iff.mp mem)
    exact ⟨stored, (selects r).mp passes⟩
  rw [hits_scored distinct]
  refine ⟨fun h mem => ?_, ?_, ?_, ?_, fun r stored wants => ?_⟩
  · obtain ⟨r, taken, rfl⟩ := List.mem_map.mp mem
    obtain ⟨stored, wants⟩ := chosen (List.mem_of_mem_take taken)
    exact ⟨stored, wants, rfl⟩
  · exact List.pairwise_map.mpr (sorted.sublist (List.take_sublist limit ranked))
  · rw [List.map_map]
    exact (List.map_id _).symm ▸ distinct.of_map _
  · rw [List.length_map]
    exact List.length_take_le limit ranked
  · have ranks : r ∈ ranked.take limit ++ ranked.drop limit := by
      rw [List.take_append_drop]
      exact perm.mem_iff.mpr (List.mem_filter.mpr ⟨stored, (selects r).mpr wants⟩)
    rcases List.mem_append.mp ranks with taken | left
    · exact .inl ⟨⟨score r, r⟩, List.mem_map.mpr ⟨r, taken, rfl⟩, rfl⟩
    · -- something is left out, so the limit is reached with what comes before it
      refine .inr ⟨?_, fun h mem => ?_⟩
      · have some_left := List.length_pos_of_mem left
        simp only [List.length_drop] at some_left
        simp only [List.length_map, List.length_take]
        omega
      · obtain ⟨s, taken, rfl⟩ := List.mem_map.mp mem
        have split : (ranked.take limit ++ ranked.drop limit).Pairwise fun r s =>
            score s ≤ score r := by
          rw [List.take_append_drop]
          exact sorted
        exact (List.pairwise_append.mp split).2.2 s taken r left

end SearchService

section Search

open UuidText SearchService

variable (similarity : String → String → ℚ) (platform : Platform) (dto : SearchQueryDto)
  (tenant : Uuid)

/-- A live product of the tenant, similar to the query, in the category that it names. -/
structure MatchesProduct (p : Product) : Prop where
  owner : p.tenantId = tenant
  live : p.deletedAt = none
  similar : similarityThreshold < similarity p.name dto.q
  category : ∀ text, dto.categoryId = some text → text ≠ "" →
    uuidIn text = some p.categoryId

/-- A live variant of the tenant, similar to the query. -/
structure MatchesVariant (v : ProductVariant) : Prop where
  owner : v.tenantId = tenant
  live : v.deletedAt = none
  similar : similarityThreshold < similarity v.sku dto.q

variable {tenantId : String} {tenant} {limit : ℕ} (ties : Uuid → ℕ) (w : World)

theorem searchProducts_ok (named : uuidIn tenantId = some tenant)
    (category : ∀ text, dto.categoryId = some text → text ≠ "" →
      ∃ c, uuidIn text = some c) :
    ∃ hits, searchProducts similarity platform tenantId dto limit ties w = .ok hits ∧
      BestHits (MatchesProduct similarity dto tenant) (fun p => similarity p.name dto.q) limit
        w.db.products hits := by
  obtain ⟨chosen, read, means⟩ : ∃ chosen : Option Uuid,
      (dto.categoryId.filter (· ≠ "")).mapM uuidParam = .ok chosen ∧
        ∀ p : Product, chosen.all (· == p.categoryId) = true ↔
          ∀ text, dto.categoryId = some text → text ≠ "" →
            uuidIn text = some p.categoryId := by
    cases given : dto.categoryId with
    | none => exact ⟨none, rfl, fun p => by simp⟩
    | some text =>
        by_cases blank : text = ""
        · subst blank
          exact ⟨none, rfl, fun p => by simp⟩
        · obtain ⟨c, parsed⟩ := category text given blank
          refine ⟨some c, ?_, fun p => by simp [blank, parsed]⟩
          rw [Option.filter_some_pos (by simpa using blank), Option.mapM_some,
            uuidParam_eq_ok.mpr parsed]
          rfl
  refine ⟨_, bind_eq_ok.mpr ⟨tenant, uuidParam_eq_ok.mpr named,
    bind_eq_ok.mpr ⟨chosen, read, rfl⟩⟩,
    bestHits_scored fun p => ?_⟩
  simp only [Bool.and_eq_true, beq_iff_eq, decide_eq_true_eq, means]
  exact ⟨fun h => ⟨h.1.1.1, Option.isNone_iff_eq_none.mp h.1.1.2, h.1.2, h.2⟩,
    fun h => ⟨⟨⟨h.owner, Option.isNone_iff_eq_none.mpr h.live⟩, h.similar⟩,
      h.category⟩⟩

theorem searchVariants_ok (named : uuidIn tenantId = some tenant) :
    ∃ hits, searchVariants similarity platform tenantId dto limit ties w = .ok hits ∧
      BestHits (MatchesVariant similarity dto tenant) (fun v => similarity v.sku dto.q) limit
        w.db.variants hits := by
  refine ⟨_, bind_eq_ok.mpr ⟨tenant, uuidParam_eq_ok.mpr named, rfl⟩,
    bestHits_scored fun v => ?_⟩
  simp only [Bool.and_eq_true, beq_iff_eq, decide_eq_true_eq]
  exact ⟨fun h => ⟨h.1.1, Option.isNone_iff_eq_none.mp h.1.2, h.2⟩,
    fun h => ⟨⟨h.owner, Option.isNone_iff_eq_none.mpr h.live⟩, h.similar⟩⟩

/-- The hits are there where they are asked for, and good. -/
structure PartRight {ρ : Type} (asked : Bool) (good : List (Hit ρ) → Prop)
    (part : Option (List (Hit ρ))) : Prop where
  present : part.isSome = asked
  good : ∀ hits, part = some hits → good hits

theorem runs_part {ρ : Type} {good : List (Hit ρ) → Prop}
    {read : (Uuid → ℕ) → World → Except Err (List (Hit ρ))} (asked : Bool) (w : World)
    (reads : ∃ hits, read (w.ties 0) w = .ok hits ∧ good hits) :
    ∃ found w', (part asked read).runs w = (.ok found, w') ∧ w'.db = w.db ∧
      PartRight asked good found := by
  obtain ⟨hits, answer, is_good⟩ := reads
  cases asked with
  | false => exact ⟨none, w, rfl, rfl, rfl, fun _ impossible => by cases impossible⟩
  | true =>
      refine ⟨some hits, { w with ties := fun n => w.ties (n + 1) }, ?_, rfl, rfl, ?_⟩
      · show (some <$> listing read).runs w = _
        rw [Svc.runs_map, Svc.runs_listing, answer]
        rfl
      · intro hits' same
        cases same
        exact is_good

/-- What a search answers with. -/
structure SearchResultDto.Right (tenant : Uuid) (db : Database) (result : SearchResultDto) :
    Prop where
  type : result.type = dto.type.getD .all
  products : PartRight (dto.type = some .all || dto.type = some .product)
    (BestHits (MatchesProduct similarity dto tenant) (fun p => similarity p.name dto.q)
      ((dto.limit.map Subtype.val).getD 10) db.products) result.products
  variants : PartRight (dto.type = some .all || dto.type = some .variant)
    (BestHits (MatchesVariant similarity dto tenant) (fun v => similarity v.sku dto.q)
      ((dto.limit.map Subtype.val).getD 10) db.variants) result.variants

end Search

open UuidText SampleShop

namespace SampleShop

def hatsId : Uuid := 0xcb

def named (id category : Uuid) (name sku : String) (deletedAt : Option Timestamp) : Product :=
  ⟨id, tenantId, category, name, none, sku, true, 0, 0, deletedAt⟩

/-- Products of two categories, one of them removed, and variants of two products. -/
def assortment : Database :=
  { unstocked with
    categories :=
      ⟨[category, ⟨hatsId, tenantId, "Hats", "hats", none, 0, 0, none⟩], by decide⟩
    products := ⟨[product, named 0xb1 categoryId "Skirt" "SKI" none,
      named 0xb2 categoryId "Shirt Blue" "TSB" none, named 0xb3 categoryId "Belt" "BLT" none,
      named 0xb4 hatsId "Shirts" "HAT" none, named 0xb5 categoryId "Shirt" "OLD" (some 1)],
      by decide⟩
    variants := ⟨[variant, ⟨0x5b, tenantId, 0xb4, "SHIRT-1", 20, .emptyObject, 0, 0, none⟩],
      by decide⟩ }

/-- The share of common trigrams with the word that is searched. -/
def shirtSimilarity (text _ : String) : ℚ :=
  if text = "Shirt" then 1 else if text = "SHIRT-1" then 0.75 else if text = "Shirts" then 0.625
  else if text = "Shirt Blue" then 0.54545456 else if text = "Skirt" then 0.33333334 else 0

def shirtSearch : SearchQueryDto :=
  ⟨"Shirt", some ⟨2, by decide⟩, some .all, some (uuidOut categoryId)⟩

def hitNames (result : SearchResultDto) : Option (List String) × Option (List String) :=
  (result.products.map (List.map (·.item.name)), result.variants.map (List.map (·.item.sku)))

end SampleShop

end Tenantory
