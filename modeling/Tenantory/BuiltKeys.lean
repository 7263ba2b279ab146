import Tenantory.CacheKeyText

/-! The keys that `CacheKeys` builds. A key tells its builder, its tenant and the id or the
digest it ends with, and a pattern matches the lists and the tree of its own tenant only. -/

namespace Tenantory

open UuidText

inductive Builder
  | category | categoriesList | categoriesTree | product | productsList | user
  deriving DecidableEq

/-- What a builder puts after the tenant. -/
def Builder.name : Builder → String
  | category => "category:"
  | categoriesList => "categories:list:"
  | categoriesTree => "categories:tree"
  | product => "product:"
  | productsList => "products:list:"
  | user => "user:"

inductive BuiltKey
  | category (tenantId id : String)
  | categoriesList (tenantId : String) (query : Json)
  | categoriesTree (tenantId : String)
  | product (tenantId id : String)
  | productsList (tenantId : String) (query : Json)
  | user (tenantId id : String)

namespace BuiltKey

def builder : BuiltKey → Builder
  | category _ _ => .category
  | categoriesList _ _ => .categoriesList
  | categoriesTree _ => .categoriesTree
  | product _ _ => .product
  | productsList _ _ => .productsList
  | user _ _ => .user

def tenantId : BuiltKey → String
  | category tenantId _ => tenantId
  | categoriesList tenantId _ => tenantId
  | categoriesTree tenantId => tenantId
  | product tenantId _ => tenantId
  | productsList tenantId _ => tenantId
  | user tenantId _ => tenantId

/-- The id of an entity or the digest of a query. -/
def detail (platform : Platform) : BuiltKey → String
  | category _ id => id
  | categoriesList _ query => platform.digest query
  | categoriesTree _ => ""
  | product _ id => id
  | productsList _ query => platform.digest query
  | user _ id => id

def text (platform : Platform) : BuiltKey → String
  | category tenantId id => CacheKeys.category tenantId id
  | categoriesList tenantId query => CacheKeys.categoriesList platform tenantId query
  | categoriesTree tenantId => CacheKeys.categoriesTree tenantId
  | product tenantId id => CacheKeys.product tenantId id
  | productsList tenantId query => CacheKeys.productsList platform tenantId query
  | user tenantId id => CacheKeys.user tenantId id

variable {platform : Platform} {a b key : BuiltKey}

theorem text_parts : (key.text platform).toList = 't' :: ':' :: (key.tenantId.toList ++
    ':' :: (key.builder.name.toList ++ (key.detail platform).toList)) := by
  cases key <;> simp [text, builder, tenantId, detail, Builder.name, CacheKeys.category,
    CacheKeys.categoriesList, CacheKeys.categoriesTree, CacheKeys.product, CacheKeys.productsList,
    CacheKeys.user]

end BuiltKey

/-- No name is where another one, with anything after it, begins. -/
theorem Builder.name_apart {a b : Builder} {x y : List Char}
    (h : a.name.toList ++ x = b.name.toList ++ y) :
    a = b ∧ x = y := by
  by_cases same : a = b
  · subst same
    exact ⟨rfl, List.append_cancel_left h⟩
  · cases a <;> cases b <;> first | exact absurd rfl same | simp [Builder.name] at h

section Patterns

variable {start rest : List Char}

theorem wildcard_open_iff {text : List Char}
    (plain : ∀ c ∈ start, c ≠ '*' ∧ c ≠ '?' ∧ c ≠ '\\') :
    wildcard '*' '?' (start ++ ['*']) text = true ↔ start <+: text := by
  constructor
  · exact prefix_of_wildcard plain
  · rintro ⟨rest, rfl⟩
    exact wildcard_open plain

/-- A pattern for the keys of a tenant that go on with `start`. -/
theorem wildcard_parts {tenantId tenantId' : String} {tenant tenant' : Uuid}
    (ht : uuidIn tenantId = some tenant) (ht' : uuidIn tenantId' = some tenant')
    (plain : ∀ c ∈ start, c ≠ '*' ∧ c ≠ '?' ∧ c ≠ '\\') :
    wildcard '*' '?' ('t' :: ':' :: (tenantId.toList ++ ':' :: start) ++ ['*'])
        ('t' :: ':' :: (tenantId'.toList ++ ':' :: rest)) = true ↔
      tenantId' = tenantId ∧ start <+: rest := by
  rw [wildcard_open_iff]
  · constructor
    · rintro ⟨more, same⟩
      simp only [List.cons_append, List.append_assoc, List.cons.injEq, true_and] at same
      obtain ⟨texts, rests⟩ := append_colon_inj (no_colon ht) (no_colon ht') same
      exact ⟨(String.toList_inj.mp texts).symm, more, rests⟩
    · rintro ⟨rfl, more, rfl⟩
      exact ⟨more, by simp⟩
  · intro c mem
    rcases List.mem_cons.mp mem with rfl | mem
    · decide
    · rcases List.mem_cons.mp mem with rfl | mem
      · decide
      · rcases List.mem_append.mp mem with digit | mem
        · exact (idChar_plain (uuidIn_chars ht c digit)).2
        · rcases List.mem_cons.mp mem with rfl | mem
          · decide
          · exact plain c mem

end Patterns

namespace BuiltKey

variable {platform : Platform} {a b key : BuiltKey} {tenantId : String} {tenant tenant' : Uuid}

theorem text_inj (ha : uuidIn a.tenantId = some tenant) (hb : uuidIn b.tenantId = some tenant')
    (h : a.text platform = b.text platform) :
    a.builder = b.builder ∧ a.tenantId = b.tenantId ∧
      a.detail platform = b.detail platform := by
  have lists := congrArg String.toList h
  rw [text_parts, text_parts] at lists
  have tails := (List.cons.inj (List.cons.inj lists).2).2
  obtain ⟨tenants, rests⟩ := append_colon_inj (no_colon ha) (no_colon hb) tails
  obtain ⟨builders, details⟩ := Builder.name_apart rests
  exact ⟨builders, String.toList_inj.mp tenants, String.toList_inj.mp details⟩

theorem categories_glob (ht : uuidIn tenantId = some tenant)
    (hk : uuidIn key.tenantId = some tenant') :
    CacheService.glob (CacheKeys.categoriesPattern tenantId) (key.text platform) = true ↔
      key.tenantId = tenantId ∧
        (key.builder = .categoriesList ∨ key.builder = .categoriesTree) := by
  have pattern : (CacheKeys.categoriesPattern tenantId).toList =
      't' :: ':' :: (tenantId.toList ++ ':' :: "categories:".toList) ++ ['*'] := by
    simp [CacheKeys.categoriesPattern]
  rw [CacheService.glob, pattern, text_parts, wildcard_parts ht hk (by simp)]
  refine and_congr_right fun _ => ?_
  cases key.builder <;> simp [Builder.name]

theorem products_glob (ht : uuidIn tenantId = some tenant)
    (hk : uuidIn key.tenantId = some tenant') :
    CacheService.glob (CacheKeys.productsPattern tenantId) (key.text platform) = true ↔
      key.tenantId = tenantId ∧ key.builder = .productsList := by
  have pattern : (CacheKeys.productsPattern tenantId).toList =
      't' :: ':' :: (tenantId.toList ++ ':' :: "products:".toList) ++ ['*'] := by
    simp [CacheKeys.productsPattern]
  rw [CacheService.glob, pattern, text_parts, wildcard_parts ht hk (by simp)]
  refine and_congr_right fun _ => ?_
  cases key.builder <;> simp [Builder.name]

/-- Keys of two tenants, two builders, two ids or two digests differ, and a pattern of a tenant
matches exactly the keys that it is there for. -/
theorem keys_separated (platform : Platform) (a b : BuiltKey) (tenantId : String)
    (ha : (uuidIn a.tenantId).isSome) (hb : (uuidIn b.tenantId).isSome)
    (ht : (uuidIn tenantId).isSome) :
    (a.text platform = b.text platform →
      a.builder = b.builder ∧ a.tenantId = b.tenantId ∧
        a.detail platform = b.detail platform) ∧
    (CacheService.glob (CacheKeys.categoriesPattern tenantId) (a.text platform) = true ↔
      a.tenantId = tenantId ∧ (a.builder = .categoriesList ∨ a.builder = .categoriesTree)) ∧
    (CacheService.glob (CacheKeys.productsPattern tenantId) (a.text platform) = true ↔
      a.tenantId = tenantId ∧ a.builder = .productsList) := by
  obtain ⟨_, ha⟩ := Option.isSome_iff_exists.mp ha
  obtain ⟨_, hb⟩ := Option.isSome_iff_exists.mp hb
  obtain ⟨_, ht⟩ := Option.isSome_iff_exists.mp ht
  exact ⟨text_inj ha hb, categories_glob ht ha, products_glob ht ha⟩

theorem keys_separated_trees :
    CacheService.glob (CacheKeys.categoriesPattern (uuidOut 7))
      ((categoriesTree (uuidOut 7)).text .ascii) = true ∧
    ¬ CacheService.glob (CacheKeys.categoriesPattern (uuidOut 7))
      ((product (uuidOut 7) "p").text .ascii) = true ∧
    (categoriesTree (uuidOut 7)).text .ascii ≠ (product (uuidOut 7) "p").text .ascii := by
  have known : (uuidIn (uuidOut 7)).isSome := by rw [uuidIn_uuidOut]; rfl
  obtain ⟨apart, tree, -⟩ := keys_separated .ascii (categoriesTree (uuidOut 7))
    (product (uuidOut 7) "p") (uuidOut 7) known known known
  obtain ⟨-, entity, -⟩ := keys_separated .ascii (product (uuidOut 7) "p")
    (product (uuidOut 7) "p") (uuidOut 7) known known known
  refine ⟨tree.mpr ⟨rfl, .inr rfl⟩, ?_, ?_⟩
  · rw [entity]
    rintro ⟨-, list | tree⟩
    · cases list
    · cases tree
  · intro same
    cases (apart same).1

end BuiltKey
end Tenantory
