import Tenantory.QueryPlatform

/-! The Redis cache of the services. A command that fails is logged and swallowed,
so every operation answers; keys do not expire here. -/

namespace Tenantory

/-! ## Keys -/

namespace CacheKeys

def category (tenantId id : String) : String := "t:" ++ tenantId ++ ":category:" ++ id

def categoriesList (platform : Platform) (tenantId : String) (query : Json) : String :=
  "t:" ++ tenantId ++ ":categories:list:" ++ platform.digest query

def categoriesTree (tenantId : String) : String := "t:" ++ tenantId ++ ":categories:tree"

def categoriesPattern (tenantId : String) : String := "t:" ++ tenantId ++ ":categories:*"

def product (tenantId id : String) : String := "t:" ++ tenantId ++ ":product:" ++ id

def productsList (platform : Platform) (tenantId : String) (query : Json) : String :=
  "t:" ++ tenantId ++ ":products:list:" ++ platform.digest query

def productsPattern (tenantId : String) : String := "t:" ++ tenantId ++ ":products:*"

def user (tenantId id : String) : String := "t:" ++ tenantId ++ ":user:" ++ id

end CacheKeys

namespace World

def cached (w : World) (key : String) : Option Cached :=
  (w.cache.find? (·.1 == key)).map Prod.snd

def setKey (w : World) (key : String) (value : Cached) : World :=
  { w with cache := (key, value) :: w.cache.filter (·.1 != key) }

def deleteKeys (w : World) (p : String → Bool) : World :=
  { w with cache := w.cache.filter fun entry => !p entry.1 }

theorem cached_setKey (w : World) (key key' : String) (value : Cached) :
    (w.setKey key value).cached key' = if key = key' then some value else w.cached key' := by
  unfold cached setKey
  by_cases same : key = key'
  · simp [same]
  · rw [if_neg same, List.find?_cons_of_neg (by simpa using same), List.find?_filter]
    congr 2
    funext entry
    by_cases hit : entry.1 = key'
    · simp [hit, Ne.symm same]
    · simp [hit]

theorem cached_deleteKeys (w : World) (p : String → Bool) (key : String) :
    (w.deleteKeys p).cached key = if p key then none else w.cached key := by
  unfold cached deleteKeys
  rw [List.find?_filter]
  cases gone : p key with
  | true =>
      simp only [if_true]
      rw [List.find?_eq_none.mpr fun entry _ => ?_, Option.map_none]
      by_cases hit : entry.1 = key
      · simp [hit, gone]
      · simp [hit]
  | false =>
      simp only [Bool.false_eq_true, if_false]
      congr 2
      funext entry
      by_cases hit : entry.1 = key
      · simp [hit, gone]
      · simp [hit]

/-- Every cached object has a property, which may look at its key. -/
def CachedAll (P : String → Cached → Prop) (w : World) : Prop :=
  ∀ entry ∈ w.cache, P entry.1 entry.2

variable {P : String → Cached → Prop} {w : World}

theorem CachedAll.of_cached (all : w.CachedAll P) {key : String} {value : Cached}
    (h : w.cached key = some value) : P key value := by
  unfold cached at h
  obtain ⟨entry, found, rfl⟩ := Option.map_eq_some_iff.mp h
  have same : entry.1 = key := by simpa using List.find?_some found
  rw [← same]
  exact all entry (List.mem_of_find?_eq_some found)

theorem CachedAll.of_subset {w' : World} (all : w.CachedAll P) (less : w'.cache ⊆ w.cache) :
    w'.CachedAll P := fun entry mem => all entry (less mem)

theorem CachedAll.setKey (all : w.CachedAll P) {key : String} {value : Cached} (h : P key value) :
    (w.setKey key value).CachedAll P := by
  intro entry mem
  rcases List.mem_cons.mp mem with rfl | old
  · exact h
  · exact all entry (List.mem_of_mem_filter old)

theorem CachedAll.deleteKeys (all : w.CachedAll P) (p : String → Bool) :
    (w.deleteKeys p).CachedAll P :=
  fun entry mem => all entry (List.mem_of_mem_filter mem)

end World

namespace CacheService

/-- One command, with `failed` as the answer when Redis gives none. -/
def command {β : Type} (label : Label) (failed : β) (act : World → β × World) : Svc β :=
  ExceptT.mk <| Prog.atom
    { label, ready := fun _ => true, act := fun w => (.ok (act w).1, (act w).2) }
    fun r => .ret (.ok (match r with | .ok answer => answer | .error _ => failed))

/-- `read` is the type that the caller expects under the key. -/
def get {β : Type} (key : String) (read : Cached → Option β) : Svc (Option β) :=
  command .redis none fun w => ((w.cached key).bind read, w)

def set (key : String) (value : Cached) : Svc Unit :=
  command (.cacheSet key value) () fun w => ((), w.setKey key value)

def del (key : String) : Svc Unit :=
  command .redis () fun w => ((), w.deleteKeys (· == key))

/-- A Redis glob; the patterns of `CacheKeys` have no character classes. -/
def glob (pattern key : String) : Bool := wildcard '*' '?' pattern.toList key.toList

/-- The SCAN iteration, with nobody else writing matching keys during it. -/
def delByPattern (pattern : String) : Svc Unit :=
  command .redis () fun w => ((), w.deleteKeys (glob pattern))

end CacheService

namespace Cached

def category? : Cached → Option CategoryEntity
  | category entity => some entity
  | _ => none

def categoriesList? : Cached → Option (PaginatedResponse CategoryEntity)
  | categoriesList page => some page
  | _ => none

def categoriesTree? : Cached → Option (List CategoryNode)
  | categoriesTree roots => some roots
  | _ => none

def product? : Cached → Option ProductEntity
  | product entity => some entity
  | _ => none

def productsList? : Cached → Option (PaginatedResponse ProductEntity)
  | productsList page => some page
  | _ => none

def user? : Cached → Option User
  | user entity => some entity
  | _ => none

end Cached
end Tenantory
