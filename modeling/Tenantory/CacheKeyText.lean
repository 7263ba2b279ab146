import Tenantory.CacheService

/-! The texts of cache keys. The text of an identifier has no colon and no wildcard, so
that a key tells what it was made of and a pattern finds the keys it is meant for. -/

namespace Tenantory
namespace UuidText

/-- A character in the text of an identifier. -/
def idChar (c : Char) : Bool := (hexValue c).isSome || c == '-' || c == '{' || c == '}'

theorem idChar_plain {c : Char} (h : idChar c = true) :
    c ≠ ':' ∧ c ≠ '*' ∧ c ≠ '?' ∧ c ≠ '\\' := by
  refine ⟨?_, ?_, ?_, ?_⟩
  all_goals
    rintro rfl
    revert h
    decide

theorem readBytes_chars {n acc value : ℕ} {chars rest : List Char}
    (h : readBytes n acc chars = some (value, rest)) (tail : ∀ c ∈ rest, idChar c = true) :
    ∀ c ∈ chars, idChar c = true := by
  induction n generalizing acc chars with
  | zero =>
      cases h
      exact tail
  | succ n ih =>
      match chars with
      | [] => cases h
      | [c] => cases h
      | c :: d :: more =>
          obtain ⟨high, hc, h⟩ := Option.bind_eq_some_iff.mp h
          obtain ⟨low, hd, h⟩ := Option.bind_eq_some_iff.mp h
          have skipped := ih h
          have rest_chars : ∀ e ∈ more, idChar e = true := by
            intro e he
            split at skipped
            · split at skipped
              · rcases List.mem_cons.mp he with rfl | later
                · decide
                · exact skipped e later
              · exact skipped e he
            · exact skipped e he
          intro e he
          rcases List.mem_cons.mp he with rfl | he
          · simp [idChar, hc]
          · rcases List.mem_cons.mp he with rfl | he
            · simp [idChar, hd]
            · exact rest_chars e he

theorem uuidIn_chars {text : String} {id : Uuid} (h : uuidIn text = some id) :
    ∀ c ∈ text.toList, idChar c = true := by
  unfold uuidIn at h
  split at h
  · rename_i chars braced
    obtain ⟨⟨value, rest⟩, hr, h⟩ := Option.bind_eq_some_iff.mp h
    dsimp only at h
    split at h
    · rename_i closed
      have inside := readBytes_chars hr (by
        rw [closed]
        exact List.forall_mem_singleton.mpr (by decide))
      intro c hc
      rw [braced] at hc
      rcases List.mem_cons.mp hc with rfl | hc
      · decide
      · exact inside c hc
    · cases h
  · obtain ⟨⟨value, rest⟩, hr, h⟩ := Option.bind_eq_some_iff.mp h
    dsimp only at h
    split at h
    · rename_i ended
      exact readBytes_chars hr (by
        rw [ended]
        exact List.forall_mem_nil _)
    · cases h

theorem no_colon {text : String} {id : Uuid} (h : uuidIn text = some id) : ':' ∉ text.toList :=
  fun mem => (idChar_plain (uuidIn_chars h _ mem)).1 rfl

end UuidText

/-! ## Keys -/

/-- The first colon ends the first part. -/
theorem append_colon_inj {a a' rest rest' : List Char} (ha : ':' ∉ a) (ha' : ':' ∉ a')
    (h : a ++ ':' :: rest = a' ++ ':' :: rest') : a = a' ∧ rest = rest' := by
  induction a generalizing a' with
  | nil =>
      cases a' with
      | nil => exact ⟨rfl, (List.cons.inj h).2⟩
      | cons c a' =>
          obtain ⟨same, -⟩ := List.cons.inj h
          exact absurd (same ▸ List.mem_cons_self) ha'
  | cons c a ih =>
      cases a' with
      | nil =>
          obtain ⟨same, -⟩ := List.cons.inj h
          exact absurd (same ▸ List.mem_cons_self) ha
      | cons d a' =>
          obtain ⟨rfl, tails⟩ := List.cons.inj h
          obtain ⟨rfl, same⟩ := ih (fun mem => ha (List.mem_cons_of_mem _ mem))
            (fun mem => ha' (List.mem_cons_of_mem _ mem)) tails
          exact ⟨rfl, same⟩

/-- A pattern of plain characters that ends in a star matches what begins like it. -/
theorem wildcard_open {start rest : List Char}
    (plain : ∀ c ∈ start, c ≠ '*' ∧ c ≠ '?' ∧ c ≠ '\\') :
    wildcard '*' '?' (start ++ ['*']) (start ++ rest) = true := by
  induction start with
  | nil =>
      have ended : wildcard '*' '?' [] [] = true := by rw [wildcard.eq_def]; rfl
      rw [List.nil_append, List.nil_append, wildcard.eq_def]
      simpa using ⟨[], List.nil_suffix, ended⟩
  | cons c start ih =>
      rw [List.cons_append, List.cons_append, wildcard_literal (plain c List.mem_cons_self)]
      simp [ih fun d hd => plain d (List.mem_cons_of_mem _ hd)]

namespace CacheKeys

open UuidText

variable {tenantId tenantId' id id' : String} {tenant i : Uuid}

/-- Parts without colon between colons. -/
theorem two_parts_inj {first second first' second' : String} {name : List Char}
    (hf : ':' ∉ first.toList) (hs : ':' ∉ second.toList)
    (h : 't' :: ':' :: (first.toList ++ ':' :: (name ++ ':' :: second.toList)) =
      't' :: ':' :: (first'.toList ++ ':' :: (name ++ ':' :: second'.toList))) :
    first = first' ∧ second = second' := by
  have tails := (List.cons.inj (List.cons.inj h).2).2
  have counts := congrArg (List.count ':') tails
  simp only [List.count_append, List.count_cons_self, List.count_eq_zero.mpr hf,
    List.count_eq_zero.mpr hs] at counts
  have none_first : ':' ∉ first'.toList := List.count_eq_zero.mp (by omega)
  obtain ⟨same, rest⟩ := append_colon_inj hf none_first tails
  have seconds := List.append_cancel_left rest
  exact ⟨String.toList_inj.mp same, String.toList_inj.mp (List.cons.inj seconds).2⟩

theorem category_parts (tenantId id : String) : (category tenantId id).toList =
    't' :: ':' :: (tenantId.toList ++ ':' :: ("category".toList ++ ':' :: id.toList)) := by
  simp [category]

theorem product_parts (tenantId id : String) : (product tenantId id).toList =
    't' :: ':' :: (tenantId.toList ++ ':' :: ("product".toList ++ ':' :: id.toList)) := by
  simp [product]

/-- A category's key tells the texts of tenant and id that it was made of. -/
theorem category_texts (ht : uuidIn tenantId = some tenant) (hi : uuidIn id = some i)
    (h : category tenantId id = category tenantId' id') : tenantId = tenantId' ∧ id = id' := by
  have lists := congrArg String.toList h
  rw [category_parts, category_parts] at lists
  exact two_parts_inj (no_colon ht) (no_colon hi) lists

theorem product_texts (ht : uuidIn tenantId = some tenant) (hi : uuidIn id = some i)
    (h : product tenantId id = product tenantId' id') : tenantId = tenantId' ∧ id = id' := by
  have lists := congrArg String.toList h
  rw [product_parts, product_parts] at lists
  exact two_parts_inj (no_colon ht) (no_colon hi) lists

/-- The key is one of the tenant's. -/
def OfTenant (tenant : Uuid) (key : String) : Prop :=
  ∃ tenantId rest, uuidIn tenantId = some tenant ∧ key = "t:" ++ tenantId ++ ":" ++ rest

theorem ofTenant_category (ht : uuidIn tenantId = some tenant) :
    OfTenant tenant (category tenantId id) :=
  ⟨tenantId, "category:" ++ id, ht, String.toList_inj.mp (by simp [category])⟩

theorem ofTenant_product (ht : uuidIn tenantId = some tenant) :
    OfTenant tenant (product tenantId id) :=
  ⟨tenantId, "product:" ++ id, ht, String.toList_inj.mp (by simp [product])⟩

variable {platform : Platform} {query query' : Json}

theorem ofTenant_categoriesList (ht : uuidIn tenantId = some tenant) :
    OfTenant tenant (categoriesList platform tenantId query) :=
  ⟨tenantId, "categories:list:" ++ platform.digest query, ht,
    String.toList_inj.mp (by simp [categoriesList])⟩

theorem ofTenant_categoriesTree (ht : uuidIn tenantId = some tenant) :
    OfTenant tenant (categoriesTree tenantId) :=
  ⟨tenantId, "categories:tree", ht, String.toList_inj.mp (by simp [categoriesTree])⟩

theorem ofTenant_productsList (ht : uuidIn tenantId = some tenant) :
    OfTenant tenant (productsList platform tenantId query) :=
  ⟨tenantId, "products:list:" ++ platform.digest query, ht,
    String.toList_inj.mp (by simp [productsList])⟩

/-- A key of a list tells the text of the tenant and the digest. -/
theorem list_texts {text text' : String} (name : List Char) (digest digest' : String)
    (ht : uuidIn text = some tenant) (ht' : uuidIn text' = some i)
    (h : 't' :: ':' :: (text.toList ++ ':' :: (name ++ digest.toList)) =
      't' :: ':' :: (text'.toList ++ ':' :: (name ++ digest'.toList))) :
    text = text' ∧ digest = digest' := by
  have tails := (List.cons.inj (List.cons.inj h).2).2
  obtain ⟨same, rest⟩ := append_colon_inj (no_colon ht) (no_colon ht') tails
  exact ⟨String.toList_inj.mp same, String.toList_inj.mp (List.append_cancel_left rest)⟩

theorem categoriesList_texts (ht : uuidIn tenantId = some tenant) (ht' : uuidIn tenantId' = some i)
    (h : categoriesList platform tenantId query = categoriesList platform tenantId' query') :
    tenantId = tenantId' ∧ platform.digest query = platform.digest query' := by
  refine list_texts "categories:list:".toList _ _ ht ht' ?_
  simpa [categoriesList] using congrArg String.toList h

theorem productsList_texts (ht : uuidIn tenantId = some tenant) (ht' : uuidIn tenantId' = some i)
    (h : productsList platform tenantId query = productsList platform tenantId' query') :
    tenantId = tenantId' ∧ platform.digest query = platform.digest query' := by
  refine list_texts "products:list:".toList _ _ ht ht' ?_
  simpa [productsList] using congrArg String.toList h

theorem categoriesTree_texts (ht : uuidIn tenantId = some tenant) (ht' : uuidIn tenantId' = some i)
    (h : categoriesTree tenantId = categoriesTree tenantId') : tenantId = tenantId' := by
  refine (list_texts "categories:tree".toList "" "" ht ht' ?_).1
  simpa [categoriesTree] using congrArg String.toList h

end CacheKeys
end Tenantory
