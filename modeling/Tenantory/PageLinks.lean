import Tenantory.CacheCoherence
import Tenantory.ListRequests

/-! Where the links of a page lead. -/

namespace Tenantory

open QueryObject

/-! ## Requests that name a page and a limit only -/

def paging (page limit : ℕ) : QueryObject :=
  [("page", toString page), ("limit", toString limit)]

section Paging

variable {web : WebPlatform} {page limit : ℕ} {name : String}

theorem text_paging (apart : name ≠ "page" ∧ name ≠ "limit") :
    (paging page limit).text name = some none := by
  have absent : (paging page limit).filter (fun p => p.1 == name) = [] := by
    simp [paging, Ne.symm apart.1, Ne.symm apart.2]
  rw [text, absent]

theorem checked_paging (apart : name ≠ "page" ∧ name ≠ "limit") (valid : String → Bool) :
    (paging page limit).checked name valid = some none := by
  rw [checked, text_paging apart]
  rfl

theorem oneOf_paging {α : Type} (apart : name ≠ "page" ∧ name ≠ "limit")
    (values : List (String × α)) : (paging page limit).oneOf name values = some none := by
  rw [oneOf, text_paging apart]
  rfl

theorem price_paging (apart : name ≠ "page" ∧ name ≠ "limit") :
    (paging page limit).price web name = some none := by
  rw [price, text_paging apart]
  rfl

theorem positive_eq {query : QueryObject} {most : Option ℕ} {n : ℕ} (lawful : web.Lawful)
    (given : query.text name = some (some (toString n))) (exact_n : n ≤ 2 ^ 53)
    (from_one : 1 ≤ n)
    (bounded : ∀ m, most = some m → n ≤ m) :
    query.positive web name most = some (some n) := by
  have inside : most.all (fun m => (n : ℚ) ≤ (m : ℚ)) = true := by
    cases most with
    | none => rfl
    | some m => simpa using bounded m rfl
  rw [positive, given]
  change ((web.number (toString n)).bind fun q : ℚ =>
    if q.isInt && 1 ≤ q && most.all (fun m => q ≤ (m : ℚ)) then some (some q.num.toNat)
    else none) = _
  rw [lawful.number n exact_n, Option.bind_some, inside, if_pos]
  · simp
  · simpa [Rat.isInt] using from_one

theorem page_paging (lawful : web.Lawful) (exact_page : page ≤ 2 ^ 53) (from_one : 1 ≤ page) :
    (paging page limit).page web = some page := by
  rw [QueryObject.page, positive_eq lawful rfl exact_page from_one fun _ none => by cases none]
  rfl

theorem limit_paging (lawful : web.Lawful) (from_one : 1 ≤ limit) (most : limit ≤ 100) :
    (paging page limit).limit web = some limit := by
  have exact_limit : limit ≤ 2 ^ 53 := most.trans (by decide)
  rw [QueryObject.limit, positive_eq lawful rfl exact_limit from_one fun _ hundred => by
    cases hundred; exact most]
  rfl

theorem sortOrder_paging : (paging page limit).sortOrder = some .desc := by
  rw [sortOrder, oneOf_paging (by decide)]
  rfl

end Paging

section Queries

variable {web : WebPlatform} {page limit : ℕ} (lawful : web.Lawful) (exact_page : page ≤ 2 ^ 53)
  (from_one : 1 ≤ page) (positive : 1 ≤ limit) (most : limit ≤ 100)

include lawful exact_page from_one positive most

theorem ProductQueryDto.ofQuery_paging : ofQuery web (paging page limit) =
    some ⟨page, limit, none, none, none, some .createdAt, some .desc⟩ := by
  rw [ofQuery, page_paging lawful exact_page from_one, limit_paging lawful positive most,
    sortOrder_paging, oneOf_paging (by decide), text_paging (by decide),
    checked_paging (by decide), checked_paging (by decide)]
  rfl

theorem VariantQueryDto.ofQuery_paging : ofQuery web (paging page limit) =
    some ⟨page, limit, none, none, none, some .createdAt, some .desc⟩ := by
  rw [ofQuery, page_paging lawful exact_page from_one, limit_paging lawful positive most,
    sortOrder_paging, oneOf_paging (by decide), text_paging (by decide),
    price_paging (by decide), price_paging (by decide)]
  rfl

theorem SupplierQueryDto.ofQuery_paging : ofQuery web (paging page limit) =
    some ⟨page, limit, none, some .createdAt, some .desc⟩ := by
  rw [ofQuery, page_paging lawful exact_page from_one, limit_paging lawful positive most,
    sortOrder_paging, oneOf_paging (by decide), text_paging (by decide)]
  rfl

theorem AuditQueryDto.ofQuery_paging : ofQuery web (paging page limit) =
    some ⟨page, limit, none, none, none, none, none⟩ := by
  rw [ofQuery, page_paging lawful exact_page from_one, limit_paging lawful positive most,
    oneOf_paging (by decide), oneOf_paging (by decide), checked_paging (by decide),
    checked_paging (by decide), checked_paging (by decide)]
  rfl

theorem NotificationQueryDto.ofQuery_paging : ofQuery web (paging page limit) =
    some ⟨page, limit, none, none, none, none⟩ := by
  rw [ofQuery, page_paging lawful exact_page from_one, limit_paging lawful positive most,
    text_paging (by decide), oneOf_paging (by decide), checked_paging (by decide),
    checked_paging (by decide)]
  rfl

end Queries

/-! ## Requests that are accepted -/

/-- A page and a limit in their bounds. -/
structure Windowed (window : Option ℕ × Option ℕ) (page limit : ℕ) : Prop where
  eq : window = (some page, some limit)
  page_pos : 1 ≤ page
  limit_pos : 1 ≤ limit
  most : limit ≤ 100

section Accepted

variable {web : WebPlatform} {query : QueryObject}

theorem QueryObject.bounds_of_positive {name : String} {most : Option ℕ}
    {given : Option ℕ} {n : ℕ}
    (read : query.positive web name most = some given) (named : given = some n) :
    1 ≤ n ∧ ∀ m, most = some m → n ≤ m := by
  obtain ⟨text, -, read⟩ := Option.bind_eq_some_iff.mp read
  cases text with
  | none => cases read; cases named
  | some text =>
      obtain ⟨q, -, read⟩ := Option.bind_eq_some_iff.mp read
      split at read
      · rename_i valid
        cases read
        cases named
        simp only [Bool.and_eq_true, decide_eq_true_eq] at valid
        obtain ⟨⟨integer, from_one⟩, bounded⟩ := valid
        have whole : ((q.num : ℤ) : ℚ) = q :=
          (Rat.den_eq_one_iff q).mp (by simpa [Rat.isInt] using integer)
        rw [← whole] at from_one
        have from_one : 1 ≤ q.num := by exact_mod_cast from_one
        refine ⟨by omega, fun m same => ?_⟩
        subst same
        have bounded : q ≤ (m : ℚ) := by simpa using bounded
        rw [← whole] at bounded
        have bounded : q.num ≤ m := by exact_mod_cast bounded
        omega
      · cases read

theorem QueryObject.page_pos {page : ℕ} (read : query.page web = some page) : 1 ≤ page := by
  obtain ⟨given, read', rfl⟩ := Option.map_eq_some_iff.mp read
  cases given with
  | none => exact Nat.le_refl 1
  | some n => exact (bounds_of_positive read' rfl).1

theorem QueryObject.limit_bounds {limit : ℕ} (read : query.limit web = some limit) :
    1 ≤ limit ∧ limit ≤ 100 := by
  obtain ⟨given, read', rfl⟩ := Option.map_eq_some_iff.mp read
  cases given with
  | none => exact ⟨by decide, by decide⟩
  | some n =>
      obtain ⟨positive, bounded⟩ := bounds_of_positive read' rfl
      exact ⟨positive, bounded 100 rfl⟩

theorem windowed {page limit : ℕ} (read : query.page web = some page)
    (read' : query.limit web = some limit) : Windowed (some page, some limit) page limit :=
  ⟨rfl, page_pos read, (limit_bounds read').1, (limit_bounds read').2⟩

theorem CategoryQueryDto.windowed {dto : CategoryQueryDto} (read : ofQuery web query = some dto) :
    ∃ page limit, Windowed (dto.page, dto.limit) page limit := by
  simp only [ofQuery, Option.bind_eq_bind, Option.bind_eq_some_iff, Option.pure_def,
    Option.some.injEq] at read
  obtain ⟨-, -, -, -, page, paged, limit, limited, -, -, -, -, -, -, -, -, rfl⟩ := read
  exact ⟨page, limit, Tenantory.windowed paged limited⟩

theorem ProductQueryDto.windowed {dto : ProductQueryDto} (read : ofQuery web query = some dto) :
    ∃ page limit, Windowed (dto.page, dto.limit) page limit := by
  simp only [ofQuery, Option.bind_eq_bind, Option.bind_eq_some_iff, Option.pure_def,
    Option.some.injEq] at read
  obtain ⟨-, -, -, -, page, paged, limit, limited, -, -, -, -, -, -, -, -, rfl⟩ := read
  exact ⟨page, limit, Tenantory.windowed paged limited⟩

theorem VariantQueryDto.windowed {dto : VariantQueryDto} (read : ofQuery web query = some dto) :
    ∃ page limit, Windowed (dto.page, dto.limit) page limit := by
  simp only [ofQuery, Option.bind_eq_bind, Option.bind_eq_some_iff, Option.pure_def,
    Option.some.injEq] at read
  obtain ⟨-, -, -, -, page, paged, limit, limited, -, -, -, -, -, -, -, -, rfl⟩ := read
  exact ⟨page, limit, Tenantory.windowed paged limited⟩

theorem WarehouseQueryDto.windowed {dto : WarehouseQueryDto} (read : ofQuery web query = some dto) :
    ∃ page limit, Windowed (dto.page, dto.limit) page limit := by
  simp only [ofQuery, Option.bind_eq_bind, Option.bind_eq_some_iff, Option.pure_def,
    Option.some.injEq] at read
  obtain ⟨-, -, -, -, page, paged, limit, limited, -, -, -, -, rfl⟩ := read
  exact ⟨page, limit, Tenantory.windowed paged limited⟩

theorem SupplierQueryDto.windowed {dto : SupplierQueryDto} (read : ofQuery web query = some dto) :
    ∃ page limit, Windowed (dto.page, dto.limit) page limit := by
  simp only [ofQuery, Option.bind_eq_bind, Option.bind_eq_some_iff, Option.pure_def,
    Option.some.injEq] at read
  obtain ⟨-, -, -, -, page, paged, limit, limited, -, -, -, -, rfl⟩ := read
  exact ⟨page, limit, Tenantory.windowed paged limited⟩

theorem StockQueryDto.windowed {dto : StockQueryDto} (read : ofQuery web query = some dto) :
    ∃ page limit, Windowed (dto.page, dto.limit) page limit := by
  simp only [ofQuery, Option.bind_eq_bind, Option.bind_eq_some_iff, Option.pure_def,
    Option.some.injEq] at read
  obtain ⟨-, -, page, paged, limit, limited, -, -, -, -, -, -, -, -, rfl⟩ := read
  exact ⟨page, limit, Tenantory.windowed paged limited⟩

theorem AuditQueryDto.windowed {dto : AuditQueryDto} (read : ofQuery web query = some dto) :
    ∃ page limit, Windowed (dto.page, dto.limit) page limit := by
  simp only [ofQuery, Option.bind_eq_bind, Option.bind_eq_some_iff, Option.pure_def,
    Option.some.injEq] at read
  obtain ⟨-, -, page, paged, limit, limited, -, -, -, -, -, -, -, -, -, -, rfl⟩ := read
  exact ⟨page, limit, Tenantory.windowed paged limited⟩

theorem NotificationQueryDto.windowed {dto : NotificationQueryDto}
    (read : ofQuery web query = some dto) :
    ∃ page limit, Windowed (dto.page, dto.limit) page limit := by
  simp only [ofQuery, Option.bind_eq_bind, Option.bind_eq_some_iff, Option.pure_def,
    Option.some.injEq] at read
  obtain ⟨-, -, page, paged, limit, limited, -, -, -, -, -, -, -, -, rfl⟩ := read
  exact ⟨page, limit, Tenantory.windowed paged limited⟩

/-- What is asked for lies within its bounds. -/
theorem ListRequest.windowed {url : String} {request : ListRequest}
    (accepted : get web url = some request) :
    ∃ page limit, Windowed request.window page limit := by
  obtain ⟨⟨handler, params⟩, -, accepted⟩ := Option.bind_eq_some_iff.mp accepted
  cases handler with
  | variants | entityLogs =>
      obtain ⟨segment, -, accepted⟩ := Option.bind_eq_some_iff.mp accepted
      obtain ⟨param, -, accepted⟩ := Option.bind_eq_some_iff.mp accepted
      obtain ⟨dto, read, rfl⟩ := Option.map_eq_some_iff.mp accepted
      exact dto.windowed read
  | categories | products | warehouses | suppliers | inventory | logs | notifications =>
      obtain ⟨dto, read, rfl⟩ := Option.map_eq_some_iff.mp accepted
      exact dto.windowed read

/-- The parameter of the path, if the list has one. -/
def ListRequest.param : ListRequest → Option String
  | variants productId _ => some productId
  | entityLogs entityId _ => some entityId
  | _ => none

theorem WebPlatform.parses_of_uuid {segment text : String} (read : web.uuid segment = some text) :
    web.parsesUUID text = true := by
  obtain ⟨decoded, -, read⟩ := Option.bind_eq_some_iff.mp read
  split at read
  · rename_i parses
    cases read
    exact parses
  · cases read

theorem ListRequest.param_parses {url : String} {request : ListRequest} {param : String}
    (accepted : get web url = some request) (named : request.param = some param) :
    web.parsesUUID param = true := by
  obtain ⟨⟨handler, params⟩, -, accepted⟩ := Option.bind_eq_some_iff.mp accepted
  cases handler with
  | variants | entityLogs =>
      obtain ⟨segment, -, accepted⟩ := Option.bind_eq_some_iff.mp accepted
      obtain ⟨param, read, accepted⟩ := Option.bind_eq_some_iff.mp accepted
      obtain ⟨dto, -, rfl⟩ := Option.map_eq_some_iff.mp accepted
      cases named
      exact WebPlatform.parses_of_uuid read
  | categories | products | warehouses | suppliers | inventory | logs | notifications =>
      obtain ⟨dto, -, rfl⟩ := Option.map_eq_some_iff.mp accepted
      cases named

end Accepted

/-! ## Link texts -/

open RequestTarget in
theorem render_paging {path : List String} (text : String)
    (joined : pathText path = text.toList) (page limit : ℕ) :
    render ⟨path, paging page limit⟩ =
      text ++ "?page=" ++ toString page ++ "&limit=" ++ toString limit := by
  refine String.toList_injective ?_
  simp only [render, paging, joined, queryText, pairText, String.toList_ofList,
    String.toList_append, List.map_cons, List.map_nil, List.append_assoc,
    List.intercalate_cons_cons, List.intercalate_singleton]
  rfl

open RequestTarget in
theorem pathText_variants (productId : String) :
    pathText ["", "api", "v1", "products", productId, "variants"] =
      ("/api/v1/products/" ++ productId ++ "/variants").toList := by
  simp only [pathText, List.map_cons, List.map_nil, List.intercalate_cons_cons,
    List.intercalate_singleton, String.toList_append, List.append_assoc]
  rfl

open RequestTarget in
theorem pathText_entityLogs (entityId : String) :
    pathText ["", "api", "v1", "audit", "logs", entityId] =
      ("/api/v1/audit/logs/" ++ entityId).toList := by
  simp only [pathText, List.map_cons, List.map_nil, List.intercalate_cons_cons,
    List.intercalate_singleton, String.toList_append, List.append_assoc]
  rfl

namespace ListRequest

/-- The link of the page `n` in the responses to the request. -/
def link (request : ListRequest) (n : ℕ) : String :=
  match request with
  | categories query => CategoryService.createLink (query.limit.getD 10) n
  | products query => ProductService.buildLink (query.limit.getD 10) n
  | variants productId query => VariantService.buildLink productId (query.limit.getD 10) n
  | warehouses query => WarehouseService.buildLink query.limit n
  | suppliers query => SupplierService.buildLink (query.limit.getD 10) n
  | inventory query => InventoryService.createLink (query.limit.getD 10) n
  | logs query => AuditService.buildLink "/api/v1/audit/logs" (query.limit.getD 20) n
  | entityLogs entityId query =>
      AuditService.buildLink s!"/api/v1/audit/logs/{entityId}" (query.limit.getD 20) n
  | notifications query => NotificationService.buildLink (query.limit.getD 20) n

/-- The lists whose links have the path of their route. -/
def Routed : ListRequest → Prop
  | categories _ | warehouses _ | inventory _ => False
  | _ => True

def path : ListRequest → List String
  | categories _ => ["", "api", "v1", "categories"]
  | products _ => ["", "api", "v1", "products"]
  | variants productId _ => ["", "api", "v1", "products", productId, "variants"]
  | warehouses _ => ["", "api", "v1", "warehouses"]
  | suppliers _ => ["", "api", "v1", "suppliers"]
  | inventory _ => ["app", "v1", "inventory"]
  | logs _ => ["", "api", "v1", "audit", "logs"]
  | entityLogs entityId _ => ["", "api", "v1", "audit", "logs", entityId]
  | notifications _ => ["", "api", "v1", "notifications"]

/-- A link is the path, the page and the limit. -/
theorem link_eq_render (request : ListRequest) {limit : ℕ}
    (limited : request.window.2 = some limit)
    (n : ℕ) : request.link n = RequestTarget.render ⟨request.path, paging n limit⟩ := by
  cases request with
  | categories query =>
      have limited : query.limit = some limit := limited
      rw [link, limited, path, render_paging "/api/v1/categories" rfl]
      rfl
  | products query =>
      have limited : query.limit = some limit := limited
      rw [link, limited, path, render_paging "/api/v1/products" rfl]
      rfl
  | variants productId query =>
      have limited : query.limit = some limit := limited
      have split : "/variants?page=" = "/variants" ++ "?page=" := rfl
      rw [link, limited, path, render_paging _ (pathText_variants productId)]
      change "/api/v1/products/" ++ productId ++ "/variants?page=" ++ toString n ++ "&limit=" ++
        toString limit = _
      rw [split, ← String.append_assoc]
  | warehouses query =>
      have limited : query.limit = some limit := limited
      rw [link, limited, path, render_paging "/api/v1/warehouses" rfl]
      rfl
  | suppliers query =>
      have limited : query.limit = some limit := limited
      rw [link, limited, path, render_paging "/api/v1/suppliers" rfl]
      rfl
  | inventory query =>
      have limited : query.limit = some limit := limited
      rw [link, limited, path, render_paging "app/v1/inventory" rfl]
      rfl
  | logs query =>
      have limited : query.limit = some limit := limited
      rw [link, limited, path, render_paging "/api/v1/audit/logs" rfl]
      rfl
  | entityLogs entityId query =>
      have limited : query.limit = some limit := limited
      rw [link, limited, path, render_paging _ (pathText_entityLogs entityId)]
      rfl
  | notifications query =>
      have limited : query.limit = some limit := limited
      rw [link, limited, path, render_paging "/api/v1/notifications" rfl]
      rfl

/-! ## Where links lead -/

section Leads

variable {web : WebPlatform} {url : String} {request : ListRequest}

/-- A text without escapes. -/
theorem unescaped (lawful : web.Lawful) {name : String} (plain : name = "page" ∨ name = "limit")
    (n : ℕ) : (web.unescape name, web.unescape (toString n)) = (name, toString n) := by
  have digits : web.unescape (toString n) = toString n :=
    lawful.unescape _ (RequestTarget.not_mem_decimal (by decide) n)
      (RequestTarget.not_mem_decimal (by decide) n)
  rw [digits]
  rcases plain with rfl | rfl
  · rw [lawful.unescape "page" (by decide) (by decide)]
  · rw [lawful.unescape "limit" (by decide) (by decide)]

theorem get_render (lawful : web.Lawful) {path : List String} (nonempty : path ≠ [])
    (plain : ∀ segment ∈ path, '/' ∉ segment.toList ∧ '?' ∉ segment.toList)
    (page limit : ℕ) :
    get web (RequestTarget.render ⟨path, paging page limit⟩) =
      (handlerOf path).bind fun call => call.1.request web call.2 (paging page limit) := by
  have apart : RequestTarget.Plain ⟨path, paging page limit⟩ := by
    refine ⟨plain, fun p mem => ?_, fun p mem => ?_⟩
    · rcases List.mem_cons.mp mem with rfl | mem
      · exact ⟨by simp, by simp⟩
      · rw [List.mem_singleton] at mem
        subst mem
        exact ⟨by simp, by simp⟩
    · rcases List.mem_cons.mp mem with rfl | mem
      · exact RequestTarget.not_mem_decimal (by decide) page
      · rw [List.mem_singleton] at mem
        subst mem
        exact RequestTarget.not_mem_decimal (by decide) limit
  unfold get
  rw [RequestTarget.read_render nonempty apart]
  have decoded : (paging page limit).map (fun p => (web.unescape p.1, web.unescape p.2)) =
      paging page limit := by
    rw [paging, List.map_cons, List.map_singleton, unescaped lawful (.inl rfl),
      unescaped lawful (.inr rfl)]
  change (handlerOf path).bind (fun call => call.1.request web call.2
    ((paging page limit).map fun p => (web.unescape p.1, web.unescape p.2))) = _
  rw [decoded]

theorem not_mem_param (lawful : web.Lawful) {param : String} (parses : web.parsesUUID param = true)
    {c : Char} (other : c.isAlphanum = false) (hyphen : c ≠ '-') : c ∉ param.toList := by
  intro mem
  rcases (lawful.parsesUUID param parses).2 c mem with letter | same
  · rw [other] at letter
    cases letter
  · exact hyphen same

theorem uuid_param (lawful : web.Lawful) {param : String} (parses : web.parsesUUID param = true) :
    web.uuid param = some param := by
  have decoded := lawful.component param (not_mem_param lawful parses (by decide) (by decide))
  unfold WebPlatform.uuid
  rw [decoded]
  exact if_pos parses

theorem plain_param (lawful : web.Lawful) {param : String} (parses : web.parsesUUID param = true) :
    '/' ∉ param.toList ∧ '?' ∉ param.toList :=
  ⟨not_mem_param lawful parses (by decide) (by decide),
    not_mem_param lawful parses (by decide) (by decide)⟩

/-- The texts of the path are plain. -/
theorem path_plain (lawful : web.Lawful) (accepted : get web url = some request) :
    ∀ segment ∈ request.path, '/' ∉ segment.toList ∧ '?' ∉ segment.toList := by
  have parses : ∀ param, request.param = some param → web.parsesUUID param = true :=
    fun _ named => param_parses accepted named
  cases request with
  | variants productId query =>
      have plain := plain_param lawful (parses productId rfl)
      simpa [path] using plain
  | entityLogs entityId query =>
      have plain := plain_param lawful (parses entityId rfl)
      simpa [path] using plain
  | categories | products | warehouses | suppliers | inventory | logs | notifications =>
      simp [path]

/-- A link leads to the list that it is a link of, for the page that it names. -/
theorem link_leads (lawful : web.Lawful) (accepted : get web url = some request)
    (routed : request.Routed) {n : ℕ} (from_one : 1 ≤ n) (exact_n : n ≤ 2 ^ 53) :
    get web (request.link n) = some (request.unfiltered.atPage n) := by
  obtain ⟨page, limit, windowed⟩ := ListRequest.windowed accepted
  have limited : request.window.2 = some limit := by rw [windowed.eq]
  have positive := windowed.limit_pos
  have most := windowed.most
  have plain := path_plain lawful accepted
  have parses : ∀ param, request.param = some param → web.parsesUUID param = true :=
    fun _ named => param_parses accepted named
  have nonempty : request.path ≠ [] := by cases request <;> exact List.cons_ne_nil _ _
  rw [link_eq_render request limited, get_render lawful nonempty plain]
  cases request with
  | categories query => exact routed.elim
  | warehouses query => exact routed.elim
  | inventory query => exact routed.elim
  | products query =>
      have limited : query.limit = some limit := limited
      have found : handlerOf ["", "api", "v1", "products"] = some (.products, []) := by
        simp [handlerOf, listHandlers, PathSegment.captures, ListHandler.route]
      rw [path, found, Option.bind_some]
      simp only [ListHandler.request, ProductQueryDto.ofQuery_paging lawful exact_n from_one
        positive most, unfiltered, atPage, limited, Option.map_eq_map, Option.map_some]
  | variants productId query =>
      have limited : query.limit = some limit := limited
      have given := (lawful.parsesUUID productId (parses productId rfl)).1
      have found : handlerOf ["", "api", "v1", "products", productId, "variants"] =
          some (.variants, [productId]) := by
        simp [handlerOf, listHandlers, PathSegment.captures, ListHandler.route, given]
      rw [path, found, Option.bind_some]
      change (web.uuid productId).bind (fun productId => Option.map _
        (VariantQueryDto.ofQuery web (paging n limit))) = _
      rw [uuid_param lawful (parses productId rfl), VariantQueryDto.ofQuery_paging lawful exact_n
        from_one positive most, Option.bind_some, Option.map_some, unfiltered, atPage, limited]
  | suppliers query =>
      have limited : query.limit = some limit := limited
      have found : handlerOf ["", "api", "v1", "suppliers"] = some (.suppliers, []) := by
        simp [handlerOf, listHandlers, PathSegment.captures, ListHandler.route]
      rw [path, found, Option.bind_some]
      simp only [ListHandler.request, SupplierQueryDto.ofQuery_paging lawful exact_n from_one
        positive most, unfiltered, atPage, limited, Option.map_eq_map, Option.map_some]
  | logs query =>
      have limited : query.limit = some limit := limited
      have found : handlerOf ["", "api", "v1", "audit", "logs"] = some (.logs, []) := by
        simp [handlerOf, listHandlers, PathSegment.captures, ListHandler.route]
      rw [path, found, Option.bind_some]
      simp only [ListHandler.request, AuditQueryDto.ofQuery_paging lawful exact_n from_one
        positive most, unfiltered, atPage, limited, Option.map_eq_map, Option.map_some]
  | entityLogs entityId query =>
      have limited : query.limit = some limit := limited
      have given := (lawful.parsesUUID entityId (parses entityId rfl)).1
      have found : handlerOf ["", "api", "v1", "audit", "logs", entityId] =
          some (.entityLogs, [entityId]) := by
        simp [handlerOf, listHandlers, PathSegment.captures, ListHandler.route, given]
      rw [path, found, Option.bind_some]
      change (web.uuid entityId).bind (fun entityId => Option.map _
        (AuditQueryDto.ofQuery web (paging n limit))) = _
      rw [uuid_param lawful (parses entityId rfl), AuditQueryDto.ofQuery_paging lawful exact_n
        from_one positive most, Option.bind_some, Option.map_some, unfiltered, atPage, limited]
  | notifications query =>
      have limited : query.limit = some limit := limited
      have found : handlerOf ["", "api", "v1", "notifications"] = some (.notifications, []) := by
        simp [handlerOf, listHandlers, PathSegment.captures, ListHandler.route]
      rw [path, found, Option.bind_some]
      simp only [ListHandler.request, NotificationQueryDto.ofQuery_paging lawful exact_n from_one
        positive most, unfiltered, atPage, limited, Option.map_eq_map, Option.map_some]

/-- No link of the other lists leads anywhere. -/
theorem link_leads_nowhere (lawful : web.Lawful) (accepted : get web url = some request)
    (unrouted : ¬ request.Routed) (n : ℕ) : get web (request.link n) = none := by
  obtain ⟨page, limit, windowed⟩ := ListRequest.windowed accepted
  have limited : request.window.2 = some limit := by rw [windowed.eq]
  have plain := path_plain lawful accepted
  have nonempty : request.path ≠ [] := by cases request <;> exact List.cons_ne_nil _ _
  have lost : handlerOf request.path = none := by
    cases request with
    | categories | warehouses | inventory =>
        simp [path, handlerOf, listHandlers, PathSegment.captures, ListHandler.route]
    | products | variants | suppliers | logs | entityLogs | notifications =>
        exact absurd trivial unrouted
  rw [link_eq_render request limited, get_render lawful nonempty plain, lost]
  rfl

end Leads

/-! ## The links of a response -/

/-- The links of a response to the request, for a list that counts an empty page. -/
structure Linked (request : ListRequest) (page limit : ℕ)
    (out : PaginationMeta × PaginationLinks) : Prop where
  pages : out.1.totalPages = max 1 (pageCount out.1.totalItems limit)
  first : out.2.first = request.link 1
  previous : out.2.previous = if page > 1 then some (request.link (page - 1)) else none
  next : out.2.next = if page < out.1.totalPages then some (request.link (page + 1)) else none
  last : out.2.last = request.link out.1.totalPages

theorem linked_paginated {ρ : Type} {request : ListRequest} {page limit : ℕ} (data : List ρ)
    (total : ℕ) {link : ℕ → String} (same : ∀ n, link n = request.link n) :
    request.Linked page limit
      (paginated data total (max 1 (pageCount total limit)) page limit link).outline := by
  obtain rfl : link = request.link := funext same
  exact ⟨rfl, rfl, rfl, rfl, rfl⟩

end ListRequest

/-- What ends in an answer comes to its last part. -/
theorem Svc.answers_of_bind {α β : Type} {p : Svc α} {f : α → Svc β} {w : World} {b : β}
    (answer : ((p >>= f).runs w).1 = .ok b) : ∃ a w', ((f a).runs w').1 = .ok b := by
  rw [Svc.runs_bind] at answer
  obtain ⟨a, -, answer⟩ := Svc.follow_eq_ok (Prod.ext answer rfl)
  exact ⟨a, _, congrArg Prod.fst answer⟩

namespace ListRequest

section Answers

variable {platform : Platform} {auditLogs : Table Audit} {tenantId userId : String} {w : World}
  {page limit : ℕ}

theorem linked_variants {productId : String} {query : VariantQueryDto}
    {out : PaginationMeta × PaginationLinks} (paged : query.page = some page)
    (limited : query.limit = some limit)
    (answer : (variants productId query).answer platform auditLogs tenantId userId w = .ok out) :
    (variants productId query).Linked page limit out := by
  obtain ⟨response, ran, rfl⟩ := map_eq_ok.mp answer
  obtain ⟨product, w₁, ran⟩ := Svc.answers_of_bind ran
  obtain ⟨rows, w₂, ran⟩ := Svc.answers_of_bind ran
  cases ran
  rw [paged, limited]
  exact linked_paginated rows.1 rows.2 fun n => by rw [link, limited]

theorem linked_suppliers {query : SupplierQueryDto} {out : PaginationMeta × PaginationLinks}
    (paged : query.page = some page) (limited : query.limit = some limit)
    (answer : (suppliers query).answer platform auditLogs tenantId userId w = .ok out) :
    (suppliers query).Linked page limit out := by
  obtain ⟨response, ran, rfl⟩ := map_eq_ok.mp answer
  obtain ⟨rows, w₁, ran⟩ := Svc.answers_of_bind ran
  cases ran
  rw [paged, limited]
  exact linked_paginated rows.1 rows.2 fun n => by rw [link, limited]

theorem linked_notifications {query : NotificationQueryDto}
    {out : PaginationMeta × PaginationLinks} (paged : query.page = some page)
    (limited : query.limit = some limit)
    (answer : (notifications query).answer platform auditLogs tenantId userId w = .ok out) :
    (notifications query).Linked page limit out := by
  obtain ⟨response, ran, rfl⟩ := map_eq_ok.mp answer
  unfold NotificationService.findFeed at ran
  split at ran
  · cases ran
  · obtain ⟨rows, w₁, ran⟩ := Svc.answers_of_bind ran
    cases ran
    rw [paged, limited]
    exact linked_paginated rows.1 rows.2 fun n => by rw [link, limited]

theorem linked_readLogs {request : ListRequest} {query : AuditQueryDto} {entityId : Option String}
    {basePath : String} {response : PaginatedResponse AuditLogReadModel}
    (paged : query.page = some page) (limited : query.limit = some limit)
    (same : ∀ n, AuditService.buildLink basePath limit n = request.link n)
    (read : AuditService.readLogs platform auditLogs tenantId query entityId basePath w =
      .ok response) : request.Linked page limit response.outline := by
  obtain ⟨-, -, read⟩ := bind_eq_ok.mp read
  obtain ⟨filter, -, read⟩ := bind_eq_ok.mp read
  obtain ⟨skip, -, read⟩ := bind_eq_ok.mp read
  cases read
  rw [paged, limited]
  exact linked_paginated _ _ same

theorem linked_products {query : ProductQueryDto} {ties : Uuid → ℕ}
    {response : PaginatedResponse ProductEntity} (paged : query.page = some page)
    (limited : query.limit = some limit)
    (fresh : (ProductService.pageView platform tenantId query).fresh ties w = .ok response) :
    (products query).Linked page limit response.outline := by
  obtain ⟨rows, -, rfl⟩ := map_eq_ok.mp fresh
  unfold ProductService.pageOf
  rw [paged, limited]
  exact linked_paginated _ _ fun n => by rw [link, limited]

end Answers

end ListRequest

/-! ## Cached pages -/

/-- Nobody asks for a list of products but with such a query. -/
def ShopOp.Asks (asked : ProductQueryDto → Prop) : ShopOp → Prop
  | .catalog op => op.Asks (fun _ => True) asked
  | _ => True

/-- The queries that are asked have digests of their own. -/
def DigestsApart (platform : Platform) (asked : ProductQueryDto → Prop) : Prop :=
  ∀ q q', asked q → asked q' → platform.digest q.toJson = platform.digest q'.toJson → q = q'

/-- Under the key of a query is a page that was read for it. -/
def ReadFor (platform : Platform) (asked : ProductQueryDto → Prop) (key : String) :
    Cached → Prop
  | .productsList response => ∀ tenantId tenant query, UuidText.uuidIn tenantId = some tenant →
      asked query → key = CacheKeys.productsList platform tenantId query.toJson →
      ∃ ties w, (ProductService.pageView platform tenantId query).fresh ties w = .ok response
  | _ => True

section Cache

variable {platform : Platform} {asked : ProductQueryDto → Prop} {w : World}

theorem readFor_fresh (apart : DigestsApart platform asked) (db : Database) :
    FreshIn platform db (fun _ => True) asked (ReadFor platform asked) where
  category _ _ _ _ _ _ _ := trivial
  categories _ _ _ _ _ _ _ _ := trivial
  tree _ _ _ _ _ _ := trivial
  product _ _ _ _ _ _ _ := trivial
  products tenantId query ties w response ask _ fresh := by
    intro tenantId' tenant query' owned ask' key
    obtain ⟨owner, named⟩ := ProductService.page_tenant fresh
    obtain ⟨rfl, digest⟩ := CacheKeys.productsList_texts named owned key
    obtain rfl := apart query query' ask ask' digest
    exact ⟨ties, w, fresh⟩

theorem ShopOp.act_readFor {bcrypt : Bcrypt} (apart : DigestsApart platform asked)
    (request : Request ShopOp) (asks : request.op.Asks asked)
    (kept : w.CachedAll (ReadFor platform asked)) :
    (ShopOp.act platform bcrypt request w).CachedAll (ReadFor platform asked) := by
  obtain ⟨context, tenantId, now, op⟩ := request
  cases op with
  | catalog op => exact CatalogOp.act_cachedIn (readFor_fresh apart w.db) _ asks kept
  | tenant op => exact kept.of_subset (TenantOp.act_cache _ w)
  | user op => exact kept.of_subset (UserOp.act_cache bcrypt _ w)

theorem cached_reached {bcrypt : Bcrypt} {start : World} (apart : DigestsApart platform asked)
    (empty : start.cache = [])
    (reached : Request.Reached (ShopOp.act platform bcrypt)
      (fun request _ => request.op.Asks asked) start w) :
    w.CachedAll (ReadFor platform asked) := by
  refine reached.invariant ?_ (fun _ _ kept => kept) fun request w kept asks =>
    ShopOp.act_readFor apart request asks kept
  intro entry mem
  rw [empty] at mem
  cases mem

/-- The answer of the list is a page that was read for its query. -/
theorem ProductService.answer_fresh {tenantId : String} {tenant : Uuid} {query : ProductQueryDto}
    {response : PaginatedResponse ProductEntity} (owned : UuidText.uuidIn tenantId = some tenant)
    (ask : asked query) (kept : w.CachedAll (ReadFor platform asked))
    (answer : ((findAll platform tenantId query).runs w).1 = .ok response) :
    ∃ ties w', (pageView platform tenantId query).fresh ties w' = .ok response := by
  rw [runs_findAll] at answer
  rcases (CacheAside.finds_iff.mp (Prod.ext answer rfl)).source with hit | fresh
  · obtain ⟨value, found, wrapped⟩ := Option.bind_eq_some_iff.mp hit
    have read := kept.of_cached found
    cases value <;> cases wrapped
    exact read tenantId tenant query owned ask rfl
  · exact ⟨w.ties 0, w, fresh⟩

end Cache

namespace ListRequest

/-! ## Pages -/

/-- Every link leads to the list, with the limit and without the filters and the order, on
the page that it stands for. These lie within the pages, but for the previous one of a page
far beyond the last. -/
structure Leads (web : WebPlatform) (request : ListRequest) (page limit : ℕ)
    (out : PaginationMeta × PaginationLinks) : Prop where
  same : ∀ n, request.unfiltered.atPage n = request.atPage n ↔ request.unfiltered = request
  pages : out.1.totalPages = max 1 (pageCount out.1.totalItems limit)
  first : get web out.2.first = some (request.unfiltered.atPage 1)
  previous : ∀ url, out.2.previous = some url → 1 ≤ page - 1 ∧
    get web url = some (request.unfiltered.atPage (page - 1)) ∧
      (page - 1 ≤ out.1.totalPages ↔ page ≤ out.1.totalPages + 1)
  next : ∀ url, out.2.next = some url → page + 1 ≤ out.1.totalPages ∧
    get web url = some (request.unfiltered.atPage (page + 1))
  last : get web out.2.last = some (request.unfiltered.atPage out.1.totalPages)

/-- What a link leads to differs from the request in the page only if and only if the
request has no filter and the default order. -/
theorem unfiltered_atPage_iff (request : ListRequest) (n : ℕ) :
    request.unfiltered.atPage n = request.atPage n ↔ request.unfiltered = request := by
  cases request with
  | categories query => cases query; simp [unfiltered, atPage]
  | products query => cases query; simp [unfiltered, atPage]
  | variants productId query => cases query; simp [unfiltered, atPage]
  | warehouses query => cases query; simp [unfiltered, atPage]
  | suppliers query => cases query; simp [unfiltered, atPage]
  | inventory query => cases query; simp [unfiltered, atPage]
  | logs query => cases query; simp [unfiltered, atPage]
  | entityLogs entityId query => cases query; simp [unfiltered, atPage]
  | notifications query => cases query; simp [unfiltered, atPage]

theorem Linked.leads {web : WebPlatform} {url : String} {request : ListRequest} {page limit : ℕ}
    {out : PaginationMeta × PaginationLinks} (linked : request.Linked page limit out)
    (lawful : web.Lawful) (accepted : get web url = some request) (routed : request.Routed)
    (exact_page : page ≤ 2 ^ 53) (exact_pages : out.1.totalPages ≤ 2 ^ 53) :
    request.Leads web page limit out := by
  have leads := fun n => link_leads (n := n) lawful accepted routed
  have some_page : 1 ≤ out.1.totalPages := by
    rw [linked.pages]
    exact Nat.le_max_left _ _
  refine ⟨unfiltered_atPage_iff request, linked.pages, ?_, fun url named => ?_,
    fun url named => ?_, ?_⟩
  · rw [linked.first]
    exact leads 1 le_rfl (by decide)
  · rw [linked.previous] at named
    split at named
    · rename_i further
      cases named
      exact ⟨by omega, leads _ (by omega) (by omega), by omega⟩
    · cases named
  · rw [linked.next] at named
    split at named
    · rename_i further
      cases named
      exact ⟨further, leads _ (by omega) (by omega)⟩
    · cases named
  · rw [linked.last]
    exact leads _ some_page exact_pages

/-- The links of every response of a list whose links have the path of its route lead to its
pages, once the filters and the order are taken off. -/
theorem links_lead_to_pages {web : WebPlatform} (lawful : web.Lawful) {platform : Platform}
    {bcrypt : Bcrypt} {asked : ProductQueryDto → Prop} (apart : DigestsApart platform asked)
    {start w : World} (empty : start.cache = [])
    (reached : Request.Reached (ShopOp.act platform bcrypt)
      (fun request _ => request.op.Asks asked) start w)
    {auditLogs : Table Audit} {tenantId userId : String} {tenant : Uuid}
    (owned : UuidText.uuidIn tenantId = some tenant) {url : String} {request : ListRequest}
    (accepted : get web url = some request) (routed : request.Routed)
    (ask : ∀ query, request = products query → asked query)
    {out : PaginationMeta × PaginationLinks}
    (answer : request.answer platform auditLogs tenantId userId w = .ok out) {page limit : ℕ}
    (window : request.window = (some page, some limit)) (exact_page : page ≤ 2 ^ 53)
    (exact_pages : out.1.totalPages ≤ 2 ^ 53) : request.Leads web page limit out := by
  have kept := cached_reached apart empty reached
  have paged := congrArg Prod.fst window
  have limited := congrArg Prod.snd window
  have linked : request.Linked page limit out := by
    cases request with
    | categories query => exact routed.elim
    | warehouses query => exact routed.elim
    | inventory query => exact routed.elim
    | products query =>
        obtain ⟨response, ran, rfl⟩ := map_eq_ok.mp answer
        obtain ⟨ties, w', fresh⟩ := ProductService.answer_fresh owned (ask query rfl) kept ran
        exact linked_products paged limited fresh
    | variants productId query => exact linked_variants paged limited answer
    | suppliers query => exact linked_suppliers paged limited answer
    | logs query =>
        obtain ⟨response, ran, rfl⟩ := map_eq_ok.mp answer
        have limited : query.limit = some limit := limited
        exact linked_readLogs paged limited (fun n => by rw [link, limited]; rfl) ran
    | entityLogs entityId query =>
        obtain ⟨response, ran, rfl⟩ := map_eq_ok.mp answer
        have limited : query.limit = some limit := limited
        exact linked_readLogs paged limited (fun n => by rw [link, limited]; rfl) ran
    | notifications query => exact linked_notifications paged limited answer
  exact linked.leads lawful accepted routed exact_page exact_pages

end ListRequest

open ListRequest SampleShop UuidText

/-- Reads plain texts, and decimal numbers. -/
def plainWeb : WebPlatform where
  component text := if '%' ∈ text.toList then none else some text
  unescape text := text
  number text :=
    if text ≠ "" ∧ text.toList.all Char.isDigit then
      some (Nat.ofDigitChars 10 text.toList 0 : ℕ)
    else none
  isISO8601 _ := false
  isUUID text := (uuidIn text).isSome
  parsesUUID text := text != "" && text.toList.all fun c => c.isAlphanum || c == '-'

theorem plainWeb_lawful : plainWeb.Lawful where
  component text plain := if_neg plain
  unescape text _ _ := rfl
  number n _ := by
    have digits : (toString n).toList.all Char.isDigit = true :=
      List.all_eq_true.mpr fun c mem => RequestTarget.isDigit_of_mem_decimal mem
    have given : toString n ≠ "" := by
      intro blank
      have none := congrArg String.toList blank
      rw [Nat.toString_eq_repr, Nat.toList_repr] at none
      exact Nat.toDigits_ne_nil none
    change (if toString n ≠ "" ∧ (toString n).toList.all Char.isDigit = true then
      some ((Nat.ofDigitChars 10 (toString n).toList 0 : ℕ) : ℚ) else none) = _
    rw [if_pos ⟨given, digits⟩, Nat.toString_eq_repr, Nat.toList_repr,
      Nat.ofDigitChars_toDigits (by decide) (by decide)]
  parsesUUID text parses := by
    change (text != "" && text.toList.all fun c => c.isAlphanum || c == '-') = true at parses
    simpa using parses

namespace SampleShop

/-- The second page of a search for shirts. -/
def shirts : ProductQueryDto :=
  ⟨some 2, some 20, some "Shirt", none, none, some .createdAt, some .desc⟩

def shirtsUrl : String := "/api/v1/products?search=Shirt&page=2"

/-- There is one page, and all links but the one for the next are for it. -/
def shirtsOut : PaginationMeta × PaginationLinks :=
  (⟨1, 0, 1, 20, 2⟩, ⟨ProductService.buildLink 20 1,
    some (ProductService.buildLink 20 1), none,
    ProductService.buildLink 20 1⟩)

theorem get_shirts : get plainWeb shirtsUrl = some (products shirts) := rfl

theorem answer_shirts : (products shirts).answer plainText ∅ (uuidOut tenantId) ""
    (world unstocked) = .ok shirtsOut := rfl

end SampleShop

theorem links_lead_to_pages_shirts : Leads plainWeb (products shirts) 2 20 shirtsOut :=
  links_lead_to_pages plainWeb_lawful
    (show DigestsApart plainText (· = shirts) from fun _ _ ask ask' _ => ask.trans ask'.symm)
    rfl (.start : Request.Reached (ShopOp.act plainText hashing) _ (world unstocked) _)
    (uuidIn_uuidOut tenantId) get_shirts trivial (fun _ same => by cases same; rfl) answer_shirts
    rfl (by decide) (by decide)

/-- The first page that the second page of a search links to is not one of the search. -/
theorem first_link_drops_search :
    get plainWeb shirtsUrl = some (products shirts) ∧
      (products shirts).answer plainText ∅ (uuidOut tenantId) "" (world unstocked) =
        .ok shirtsOut ∧
      get plainWeb shirtsOut.2.first ≠ some ((products shirts).atPage 1) := by
  refine ⟨get_shirts, answer_shirts, fun same => ?_⟩
  have leads : get plainWeb shirtsOut.2.first =
      some (products ⟨some 1, some 20, none, none, none, some .createdAt, some .desc⟩) := rfl
  rw [leads] at same
  simp [atPage, shirts] at same

end Tenantory
