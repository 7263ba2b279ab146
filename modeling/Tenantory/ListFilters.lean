import Tenantory.LogWalks
import Tenantory.SelectedRows

/-! What the filters of the lists select, from the texts of the query string to the rows. -/

namespace Tenantory

open UuidText

section Filters

variable {platform : Platform} {tenantId recipientId : String} {tenant : Uuid} {w : World}

/-- A filter that leaves out a row changes the number of rows. -/
theorem all_of_length_filter {ρ : Type} {rows : List ρ} {p : ρ → Bool}
    (same : (rows.filter p).length = rows.length) : ∀ r ∈ rows, p r = true :=
  List.length_filter_eq_length_iff.mp same

/-! ## The notification feed -/

/-- The accepted parameters of a feed request. -/
structure FeedParams where
  page : Option ℕ
  limit : Option ℕ
  unreadOnly : Option String
  type : Option NotificationType
  startDate : Option String
  endDate : Option String

/-- The type annotation of the property converts its text with `Boolean(text)`. -/
def FeedParams.toDto (params : FeedParams) : NotificationQueryDto where
  page := params.page
  limit := params.limit
  unreadOnly := params.unreadOnly.map fun text => text != ""
  type := params.type
  startDate := params.startDate
  endDate := params.endDate

namespace NotificationService

theorem runs_feed {request : NotificationQueryDto} {filter : FeedFilter} {skip : ℕ}
    (dates : assertDateRange platform request = .ok ())
    (read : feedFilter platform tenantId recipientId (some request) = .ok filter)
    (offsets : offset (request.page.getD 1) (request.limit.getD 20) = .ok skip) :
    ((findFeed platform tenantId recipientId request).runs w).1 = .ok (paginated
      (window skip (some (request.limit.getD 20))
        (newestFirst platform (w.db.notifications.select filter.admits)))
      (w.db.notifications.select filter.admits).length
      (max 1 (pageCount (w.db.notifications.select filter.admits).length (request.limit.getD 20)))
      (request.page.getD 1) (request.limit.getD 20) (buildLink (request.limit.getD 20))) := by
  unfold findFeed
  rw [dates]
  simp only [Svc.runs_bind, Svc.runs_query, read, offsets]
  rfl

theorem selects_feed {request : NotificationQueryDto} {filter : FeedFilter} {skip : ℕ}
    (dates : assertDateRange platform request = .ok ())
    (read : feedFilter platform tenantId recipientId (some request) = .ok filter)
    (offsets : offset (request.page.getD 1) (request.limit.getD 20) = .ok skip) :
    Selects ((findFeed platform tenantId recipientId request).runs w).1
      (window skip (some (request.limit.getD 20))) (w.db.notifications.select filter.admits) :=
  selects_window (runs_feed dates read offsets)

/-- A feed that answers has read its filter and found its page. -/
theorem of_findFeed_ok {request : NotificationQueryDto} {response : PaginatedResponse Notification}
    (answer : ((findFeed platform tenantId recipientId request).runs w).1 = .ok response) :
    (∃ filter, feedFilter platform tenantId recipientId (some request) = .ok filter) ∧
      ∃ skip, offset (request.page.getD 1) (request.limit.getD 20) = .ok skip := by
  unfold findFeed at answer
  cases dates : assertDateRange platform request with
  | error err =>
      rw [dates] at answer
      cases answer
  | ok done =>
      rw [dates] at answer
      simp only [Svc.runs_bind, Svc.runs_query] at answer
      obtain ⟨rows, read, -⟩ := Svc.follow_eq_ok (Prod.ext answer rfl)
      obtain ⟨filter, read, rest⟩ := bind_eq_ok.mp read
      obtain ⟨skip, offsets, -⟩ := bind_eq_ok.mp rest
      exact ⟨⟨filter, read⟩, skip, offsets⟩

/-- The rows that the parameters ask for: unread ones only if they say so. -/
def asked (params : FeedParams) (filter : FeedFilter) (db : Database) : List Notification :=
  db.notifications.select { filter with unreadOnly := params.unreadOnly == some "true" }.admits

theorem select_unread (filter : FeedFilter) (db : Database) :
    db.notifications.select { filter with unreadOnly := true }.admits =
      (db.notifications.select { filter with unreadOnly := false }.admits).filter
        fun n => n.readAt.isNone := by
  unfold Table.select
  rw [List.filter_filter]
  refine List.filter_congr fun n _ => ?_
  simp only [FeedFilter.admits, Bool.not_true, Bool.not_false, Bool.false_or, Bool.true_or,
    Bool.and_true]
  ac_rfl

theorem unreadOnly_of_feedFilter {request : NotificationQueryDto} {filter : FeedFilter}
    (read : feedFilter platform tenantId recipientId (some request) = .ok filter) :
    filter.unreadOnly = request.unreadOnly.getD false := by
  obtain ⟨tenant, -, read⟩ := bind_eq_ok.mp read
  obtain ⟨recipient, -, read⟩ := bind_eq_ok.mp read
  obtain ⟨start, -, read⟩ := bind_eq_ok.mp read
  obtain ⟨stop, -, last⟩ := bind_eq_ok.mp read
  cases last
  rfl

theorem unreadOnly_of_none {filter : FeedFilter}
    (read : feedFilter platform tenantId recipientId none = .ok filter) :
    filter.unreadOnly = false := by
  obtain ⟨tenant, -, read⟩ := bind_eq_ok.mp read
  obtain ⟨recipient, -, read⟩ := bind_eq_ok.mp read
  obtain ⟨start, -, read⟩ := bind_eq_ok.mp read
  obtain ⟨stop, -, last⟩ := bind_eq_ok.mp read
  cases last
  rfl

/-- The feed shows a page of the rows that the parameters ask for. -/
def FeedMeans (platform : Platform) (tenantId recipientId : String) (params : FeedParams)
    (w : World) : Prop :=
  ∃ rows skip,
    (∀ filter, feedFilter platform tenantId recipientId (some params.toDto) = .ok filter →
      rows = asked params filter w.db) ∧
    offset (params.page.getD 1) (params.limit.getD 20) = .ok skip ∧
    Selects ((findFeed platform tenantId recipientId params.toDto).runs w).1
      (window skip (some (params.limit.getD 20))) rows

section Unread

variable {params : FeedParams} {filter : FeedFilter} {db : Database}
  (only : filter.unreadOnly = (params.unreadOnly.map fun text => text != "").getD false)

include only

/-- A text that asks for all and is taken for true leaves the ones that are read out. -/
theorem unread_of_length
    (counted : (asked params filter db).length =
      (db.notifications.select filter.admits).length) :
    params.unreadOnly = none ∨ params.unreadOnly = some "" ∨ params.unreadOnly = some "true" ∨
      ∀ n ∈ db.notifications, { filter with unreadOnly := false }.admits n = true →
        n.readAt = none := by
  by_contra others
  obtain ⟨given, blank, wrong, someRead⟩ : params.unreadOnly ≠ none ∧
      params.unreadOnly ≠ some "" ∧ params.unreadOnly ≠ some "true" ∧
      ¬ ∀ n ∈ db.notifications, { filter with unreadOnly := false }.admits n = true →
        n.readAt = none := by
    simpa only [not_or] using others
  have all : asked params filter db =
      db.notifications.select { filter with unreadOnly := false }.admits := by
    have no : (params.unreadOnly == some "true") = false := beq_false_of_ne wrong
    rw [asked, no]
  have filled : filter.unreadOnly = true := by
    obtain ⟨text, chosen⟩ := Option.ne_none_iff_exists'.mp given
    rw [only, chosen]
    simpa [chosen] using blank
  have restricted : db.notifications.select filter.admits =
      (db.notifications.select { filter with unreadOnly := false }.admits).filter
        fun n => n.readAt.isNone := by
    rw [← select_unread, ← filled]
  rw [all, restricted] at counted
  have unread := all_of_length_filter counted.symm
  exact someRead fun n mem admitted =>
    Option.isNone_iff_eq_none.mp (unread n (List.mem_filter.mpr ⟨mem, admitted⟩))

theorem asked_eq_select
    (either : params.unreadOnly = none ∨ params.unreadOnly = some "" ∨
      params.unreadOnly = some "true" ∨
      ∀ n ∈ db.notifications, { filter with unreadOnly := false }.admits n = true →
        n.readAt = none) :
    asked params filter db = db.notifications.select filter.admits := by
  rcases either with absent | blank | yes | unread
  · rw [absent] at only
    rw [asked, absent]
    change db.notifications.select { filter with unreadOnly := false }.admits = _
    rw [← show filter.unreadOnly = false from only]
  · rw [blank] at only
    rw [asked, blank]
    change db.notifications.select { filter with unreadOnly := false }.admits = _
    rw [← show filter.unreadOnly = false from only]
  · rw [yes] at only
    rw [asked, yes]
    change db.notifications.select { filter with unreadOnly := true }.admits = _
    rw [← show filter.unreadOnly = true from only]
  · have either : ∀ b : Bool, db.notifications.select { filter with unreadOnly := b }.admits =
        db.notifications.select { filter with unreadOnly := false }.admits := by
      intro b
      cases b with
      | false => rfl
      | true =>
          rw [select_unread]
          refine List.filter_eq_self.mpr fun n mem => ?_
          obtain ⟨stored, admitted⟩ := List.mem_filter.mp mem
          rw [unread n stored admitted]
          rfl
    exact (either _).trans (either filter.unreadOnly).symm

end Unread

/-- The feed selects what the parameters ask for if and only if the server reads the dates and
skips to the page, and `unreadOnly` is absent, empty or true, or no notification that the
parameters admit has been read. -/
theorem feed_means_iff {params : FeedParams}
    (dates : assertDateRange platform params.toDto = .ok ()) :
    FeedMeans platform tenantId recipientId params w ↔
      ∃ filter skip, feedFilter platform tenantId recipientId (some params.toDto) = .ok filter ∧
        offset (params.page.getD 1) (params.limit.getD 20) = .ok skip ∧
        (params.unreadOnly = none ∨ params.unreadOnly = some "" ∨
          params.unreadOnly = some "true" ∨
          ∀ n ∈ w.db.notifications, { filter with unreadOnly := false }.admits n = true →
            n.readAt = none) := by
  constructor
  · rintro ⟨rows, skip, known, offsets, claimed⟩
    have answered := claimed
    obtain ⟨response, -, answer, -⟩ := answered
    obtain ⟨⟨filter, read⟩, -⟩ := of_findFeed_ok answer
    obtain rfl := known filter read
    exact ⟨filter, skip, read, offsets, unread_of_length (unreadOnly_of_feedFilter read)
      (claimed.length_eq (selects_feed dates read offsets))⟩
  · rintro ⟨filter, skip, read, offsets, either⟩
    have same := asked_eq_select (unreadOnly_of_feedFilter read) either
    refine ⟨_, skip, fun other read' => ?_, offsets, selects_feed dates read offsets⟩
    cases read.symm.trans read'
    exact same.symm

/-- The badge counts what the feed of unread notifications counts. -/
theorem unreadCount_eq (platform : Platform) (tenantId recipientId : String) (w : World)
    (page limit : Option ℕ) {skip : ℕ}
    (offsets : offset (page.getD 1) (limit.getD 20) = .ok skip) :
    ((getUnreadCount platform tenantId recipientId).runs w).1 =
      ((findFeed platform tenantId recipientId
        (FeedParams.toDto ⟨page, limit, some "true", none, none, none⟩)).runs w).1.map
          fun response => response.pageMeta.totalItems := by
  let params : FeedParams := ⟨page, limit, some "true", none, none, none⟩
  have dates : assertDateRange platform params.toDto = .ok () := rfl
  have filters : feedFilter platform tenantId recipientId (some params.toDto) =
      (feedFilter platform tenantId recipientId none).map
        fun filter => { filter with unreadOnly := true } := by
    unfold feedFilter
    cases uuidParam tenantId with
    | error e => rfl
    | ok tenant =>
        cases uuidParam recipientId with
        | error e => rfl
        | ok recipient => rfl
  cases read : feedFilter platform tenantId recipientId none with
  | error e =>
      rw [read] at filters
      have missing : (findFeed platform tenantId recipientId params.toDto).runs w = (.error e, w) :=
        findFeed_error dates filters
      rw [missing, getUnreadCount, Svc.runs_query, read]
      rfl
  | ok filter =>
      rw [read] at filters
      have unread := unreadOnly_of_none read
      rw [runs_feed dates filters offsets, getUnreadCount, Svc.runs_query, read]
      change Except.ok (w.db.notifications.select fun n =>
        filter.admits n && n.readAt.isNone).length = .ok
          (w.db.notifications.select { filter with unreadOnly := true }.admits).length
      rw [select_unread, ← unread]
      unfold Table.select
      rw [List.filter_filter]
      exact congrArg (fun rows : List Notification => Except.ok rows.length)
        (List.filter_congr fun n _ => Bool.and_comm _ _)

end NotificationService

/-! ## Products -/

/-- The truth value of a text that stands for one. -/
def truthValue (text : String) : Bool := text == "true" || text == "1"

namespace ProductService

/-- The products that a query asks for. -/
def asked (platform : Platform) (tenant : Uuid) (category : Option Uuid) (query : ProductQueryDto)
    (db : Database) : List Product :=
  (matching platform tenant category { query with isActive := none } db).filter fun p =>
    query.isActive.all fun text => p.isActive == truthValue text

theorem matching_isActive (platform : Platform) (tenant : Uuid) (category : Option Uuid)
    (query : ProductQueryDto) (db : Database) : matching platform tenant category query db =
      (matching platform tenant category { query with isActive := none } db).filter fun p =>
        query.isActive.all fun text => p.isActive == (text == "true") := by
  unfold matching Table.select
  rw [List.filter_filter]
  refine List.filter_congr fun p _ => ?_
  rw [Option.all_none, Bool.and_true]
  ac_rfl

/-- A page of products that match is not empty if it is the first. -/
theorem first_page {query : ProductQueryDto} {category : Option Uuid} {limit : ℕ}
    (owned : uuidIn tenantId = some tenant) (read : askedCategory query.categoryId = .ok category)
    (limited : query.limit = some limit) (positive : 0 < limit)
    (current : (pageView platform tenantId { query with page := some 1 }).Current w)
    {row : Product} (mem : row ∈ matching platform tenant category query w.db) :
    ∃ response entity, ((findAll platform tenantId { query with page := some 1 }).runs w).1 =
      .ok response ∧ entity ∈ response.data := by
  rw [runs_findAll]
  obtain ⟨ties, eq⟩ := CacheAside.answer_fresh
    (pageView_tables platform tenantId { query with page := some 1 }) current
  obtain ⟨response, fresh, shows⟩ := fresh_page owned read limited platform 0 ties w
  have perm := perm_orderBy platform ties (query.sortOrder.getD .asc) (sortKey query)
    (matching platform tenant category query w.db)
  obtain ⟨first, rest, sorted⟩ := List.exists_cons_of_ne_nil
    (List.ne_nil_of_mem (perm.mem_iff.mpr mem))
  obtain ⟨k, rfl⟩ := Nat.exists_eq_succ_of_ne_zero (Nat.ne_of_gt positive)
  refine ⟨response, ProductEntity.plain first, eq.trans fresh, ?_⟩
  rw [shows.data, PagedLists.page, sorted, Nat.zero_mul, List.drop_zero, List.take_succ_cons,
    List.map_cons]
  exact List.mem_cons_self

/-- What is shown of a selection is one of its rows. -/
theorem mem_of_shown {answer : Except Err (PaginatedResponse ProductEntity)}
    {query : ProductQueryDto} {rows : List Product} (selects : Selects answer (cut query) rows)
    {response : PaginatedResponse ProductEntity} (eq : answer = .ok response)
    {entity : ProductEntity} (mem : entity ∈ response.data) :
    ∃ p ∈ rows, entity.id = p.id := by
  obtain ⟨shown, sorted, eq', -, perm, data⟩ := selects
  cases eq.symm.trans eq'
  rw [data] at mem
  obtain ⟨p, listed, rfl⟩ := List.mem_map.mp mem
  exact ⟨p, perm.subset (mem_of_mem_window listed), rfl⟩

/-- The rows that `1` asks for are not those that the list finds. -/
theorem none_of_selects {query : ProductQueryDto} {category : Option Uuid} {limit : ℕ}
    (owned : uuidIn tenantId = some tenant) (read : askedCategory query.categoryId = .ok category)
    (limited : query.limit = some limit) (positive : 0 < limit)
    (current : (pageView platform tenantId { query with page := some 1 }).Current w)
    (one : query.isActive = some "1")
    (claimed : Selects ((findAll platform tenantId { query with page := some 1 }).runs w).1
      (cut { query with page := some 1 }) (asked platform tenant category query w.db)) :
    matching platform tenant category { query with isActive := none } w.db = [] := by
  have selected : Selects ((findAll platform tenantId { query with page := some 1 }).runs w).1
      (cut { query with page := some 1 }) (matching platform tenant category query w.db) :=
    selects_matching owned read current
  have found := matching_isActive platform tenant category query w.db
  by_contra some
  obtain ⟨row, rest, base⟩ := List.exists_cons_of_ne_nil some
  have mem : row ∈ matching platform tenant category { query with isActive := none } w.db := by
    rw [base]
    exact List.mem_cons_self
  rw [one] at found
  have wanted : asked platform tenant category query w.db =
      (matching platform tenant category { query with isActive := none } w.db).filter
        fun p => p.isActive == true := by
    rw [asked, one]
    rfl
  have counted := claimed.length_eq selected
  obtain ⟨shown, listed⟩ : ∃ shown, shown ∈ matching platform tenant category
    query w.db := by
    by_contra none
    have empty : matching platform tenant category query w.db = [] :=
      List.eq_nil_iff_forall_not_mem.mpr fun p hp => none ⟨p, hp⟩
    rw [empty] at counted
    cases active : row.isActive with
    | false =>
        refine none ⟨row, ?_⟩
        rw [found]
        exact List.mem_filter.mpr ⟨mem, by simp [active]⟩
    | true =>
        have there : row ∈ asked platform tenant category query w.db := by
          rw [wanted]
          exact List.mem_filter.mpr ⟨mem, by simp [active]⟩
        rw [List.length_eq_zero_iff.mp counted] at there
        cases there
  obtain ⟨response, entity, answer, data⟩ :=
    first_page owned read limited positive current listed
  obtain ⟨p, hp, same⟩ := mem_of_shown claimed answer data
  obtain ⟨q, hq, same'⟩ := mem_of_shown selected answer data
  rw [wanted] at hp
  rw [found] at hq
  obtain ⟨hp, active⟩ := List.mem_filter.mp hp
  obtain ⟨hq, inactive⟩ := List.mem_filter.mp hq
  cases List.inj_on_of_nodup_map (nodup_matching platform tenant category
    { query with isActive := none } w.db) hp hq (same.symm.trans same')
  have contrary := (beq_iff_eq.mp active).symm.trans (beq_iff_eq.mp inactive)
  cases contrary

theorem asked_eq_matching {query : ProductQueryDto} {category : Option Uuid} {db : Database}
    (either : query.isActive ≠ some "1" ∨
      matching platform tenant category { query with isActive := none } db = []) :
    asked platform tenant category query db = matching platform tenant category query db := by
  rw [matching_isActive, asked]
  rcases either with other | none
  · refine List.filter_congr fun p _ => ?_
    cases chosen : query.isActive with
    | none => rfl
    | some text =>
        have one : (text == "1") = false := by
          simpa [chosen] using other
        rw [Option.all_some, Option.all_some, truthValue, one, Bool.or_false]
  · rw [none]
    rfl

/-- The list selects the products whose activity is the truth value of the parameter if and
only if the parameter is not 1 or no product meets the other filters. -/
theorem list_selects_iff {query : ProductQueryDto} {category : Option Uuid} {limit : ℕ}
    (owned : uuidIn tenantId = some tenant) (read : askedCategory query.categoryId = .ok category)
    (limited : query.limit = some limit) (positive : 0 < limit)
    (current : ∀ page, (pageView platform tenantId { query with page := some page }).Current w) :
    (∀ page, SafePage page limit →
      Selects ((findAll platform tenantId { query with page := some page }).runs w).1
        (cut { query with page := some page }) (asked platform tenant category query w.db)) ↔
      query.isActive ≠ some "1" ∨
        matching platform tenant category { query with isActive := none } w.db = [] := by
  constructor
  · intro claimed
    by_cases one : query.isActive = some "1"
    · exact .inr (none_of_selects owned read limited positive (current 1) one
        (claimed 1 (safePage_one limit)))
    · exact .inl one
  · intro either page _
    rw [asked_eq_matching either]
    exact selects_matching owned read (current page)

end ProductService

/-! ## Categories -/

namespace CategoryService

/-- The categories that a query asks for: the roots for an empty parent, the children of a
parent that is named. -/
def asked (platform : Platform) (tenant : Uuid) (query : CategoryQueryDto) (db : Database) :
    List Category :=
  (matching platform tenant none query db).filter fun c =>
    query.parentId.all fun text =>
      if text = "" then c.parentId.isNone
      else c.parentId.any fun parent => uuidIn text == some parent

theorem matching_parent (platform : Platform) (tenant parent : Uuid) (query : CategoryQueryDto)
    (db : Database) : matching platform tenant (some parent) query db =
      (matching platform tenant none query db).filter fun c => c.parentId == some parent := by
  unfold matching Table.select
  rw [List.filter_filter]
  refine List.filter_congr fun c _ => ?_
  rw [Option.all_none, Option.all_some, Bool.and_true]
  ac_rfl

/-- Every safe page of the list is one of these rows. -/
def PagesOf (platform : Platform) (tenantId : String) (query : CategoryQueryDto) (w : World)
    (rows : List Category) : Prop :=
  ∀ page, SafePage page (query.limit.getD 10) →
    Selects ((findAll platform tenantId { query with page := some page }).runs w).1
      (cut w.db { query with page := some page }) rows

theorem findAll_error {query : CategoryQueryDto} {e : Err} {page : ℕ}
    (owned : uuidIn tenantId = some tenant) (read : askedParent query.parentId = .error e)
    (current : (pageView platform tenantId { query with page := some page }).Current w) :
    ((findAll platform tenantId { query with page := some page }).runs w).1 = .error e := by
  rw [runs_findAll]
  obtain ⟨ties, eq⟩ := CacheAside.answer_fresh
    (pageView_tables platform tenantId { query with page := some page }) current
  have failed := readPage_error platform { query with page := some page } owned read page
    (query.limit.getD 10) ties w
  rw [eq]
  change (readPage platform tenantId { query with page := some page } page (query.limit.getD 10)
    ties w).map (pageOf { query with page := some page }) = _
  rw [failed]
  rfl

section Parents

variable {query : CategoryQueryDto} {text : String} (owned : uuidIn tenantId = some tenant)
  (current : ∀ page, (pageView platform tenantId { query with page := some page }).Current w)

include owned current

theorem pages_of_matching {parent : Option Uuid} (read : askedParent query.parentId = .ok parent) :
    PagesOf platform tenantId query w (matching platform tenant parent query w.db) :=
  fun page _ => selects_matching owned read (current page)

theorem parentless_selects (chosen : query.parentId = none) :
    PagesOf platform tenantId query w (asked platform tenant query w.db) := by
  have all : asked platform tenant query w.db = matching platform tenant none query w.db := by
    rw [asked, chosen]
    exact List.filter_eq_self.mpr fun _ _ => rfl
  rw [all]
  exact pages_of_matching owned current (by rw [chosen]; rfl)

/-- An empty text asks for the roots and is given all. -/
theorem blank_selects_iff (chosen : query.parentId = some "") :
    PagesOf platform tenantId query w (asked platform tenant query w.db) ↔
      ∀ c ∈ matching platform tenant none query w.db, c.parentId = none := by
  have roots : asked platform tenant query w.db =
      (matching platform tenant none query w.db).filter fun c => c.parentId.isNone := by
    rw [asked, chosen]
    rfl
  have selected : PagesOf platform tenantId query w (matching platform tenant none query w.db) :=
    pages_of_matching owned current (by rw [chosen]; rfl)
  constructor
  · intro claimed c mem
    have counted := (claimed 1 (safePage_one _)).length_eq (selected 1 (safePage_one _))
    rw [roots] at counted
    exact Option.isNone_iff_eq_none.mp (all_of_length_filter counted c mem)
  · intro top
    have all : asked platform tenant query w.db = matching platform tenant none query w.db := by
      rw [roots]
      exact List.filter_eq_self.mpr fun c mem => Option.isNone_iff_eq_none.mpr (top c mem)
    rw [all]
    exact selected

theorem named_selects_iff (chosen : query.parentId = some text) (blank : text ≠ "") :
    PagesOf platform tenantId query w (asked platform tenant query w.db) ↔
      (uuidIn text).isSome = true := by
  have named : askedParent query.parentId = some <$> uuidParam text := by
    rw [chosen]
    unfold askedParent
    split
    · rename_i empty
      cases empty
      exact absurd rfl blank
    · rename_i same
      cases same
      rfl
    · rename_i absent
      cases absent
  cases uuid : uuidIn text with
  | none =>
      have failed : askedParent query.parentId = .error .invalidText := by
        rw [named, uuidParam, uuid]
        rfl
      refine iff_of_false (fun claimed => ?_) Bool.false_ne_true
      obtain ⟨response, -, answer, -⟩ := claimed 1 (safePage_one _)
      rw [findAll_error owned failed (current 1)] at answer
      cases answer
  | some parent =>
      have found : askedParent query.parentId = .ok (some parent) := by
        rw [named, uuidParam, uuid]
        rfl
      have children : asked platform tenant query w.db =
          matching platform tenant (some parent) query w.db := by
        rw [asked, chosen, matching_parent]
        refine List.filter_congr fun c _ => ?_
        rw [Option.all_some, if_neg blank, uuid]
        cases c.parentId with
        | none => rfl
        | some above =>
            rw [Option.any_some]
            exact BEq.comm
      rw [children]
      exact iff_of_true (pages_of_matching owned current found) rfl

end Parents

/-- The list selects what the parent text asks for if and only if an empty text meets no
category below another and any other text is an identifier. -/
theorem list_selects_iff {query : CategoryQueryDto} (owned : uuidIn tenantId = some tenant)
    (current : ∀ page, (pageView platform tenantId { query with page := some page }).Current w) :
    PagesOf platform tenantId query w (asked platform tenant query w.db) ↔
      (query.parentId = some "" →
        ∀ c ∈ matching platform tenant none query w.db, c.parentId = none) ∧
      ∀ text, query.parentId = some text → text ≠ "" → (uuidIn text).isSome = true := by
  cases chosen : query.parentId with
  | none => exact iff_of_true (parentless_selects owned current chosen) ⟨nofun, nofun⟩
  | some text =>
      by_cases blank : text = ""
      · subst blank
        rw [blank_selects_iff owned current chosen]
        refine ⟨fun top => ⟨fun _ => top, fun text same named => ?_⟩,
          fun both => both.1 rfl⟩
        exact absurd (Option.some.inj same).symm named
      · rw [named_selects_iff owned current chosen blank]
        refine ⟨fun readable => ⟨fun empty => ?_, fun other same _ => ?_⟩, fun both =>
          both.2 text rfl blank⟩
        · exact absurd (Option.some.inj empty) blank
        · rwa [← Option.some.inj same]

end CategoryService

/-! ## The filters -/

/-- When the feed, the products and the categories select what the query string asks for;
the number of unread notifications is that of their feed. -/
theorem list_filters_iff (platform : Platform) {tenantId : String} {tenant : Uuid}
    (owned : uuidIn tenantId = some tenant) (w : World) :
    (∀ recipientId (params : FeedParams),
      NotificationService.assertDateRange platform params.toDto = .ok () →
      (NotificationService.FeedMeans platform tenantId recipientId params w ↔
        ∃ filter skip,
          NotificationService.feedFilter platform tenantId recipientId (some params.toDto) =
            .ok filter ∧
          offset (params.page.getD 1) (params.limit.getD 20) = .ok skip ∧
          (params.unreadOnly = none ∨ params.unreadOnly = some "" ∨
            params.unreadOnly = some "true" ∨
            ∀ n ∈ w.db.notifications, { filter with unreadOnly := false }.admits n = true →
              n.readAt = none))) ∧
    (∀ recipientId page limit skip, offset (page.getD 1) (limit.getD 20) = .ok skip →
      ((NotificationService.getUnreadCount platform tenantId recipientId).runs w).1 =
        ((NotificationService.findFeed platform tenantId recipientId
          (FeedParams.toDto ⟨page, limit, some "true", none, none, none⟩)).runs w).1.map
            fun response => response.pageMeta.totalItems) ∧
    (∀ (query : ProductQueryDto) category limit,
      ProductService.askedCategory query.categoryId = .ok category → query.limit = some limit →
      0 < limit →
      (∀ page, (ProductService.pageView platform tenantId
        { query with page := some page }).Current w) →
      ((∀ page, SafePage page limit → Selects
          ((ProductService.findAll platform tenantId { query with page := some page }).runs w).1
          (ProductService.cut { query with page := some page })
          (ProductService.asked platform tenant category query w.db)) ↔
        query.isActive ≠ some "1" ∨
          ProductService.matching platform tenant category { query with isActive := none } w.db =
            [])) ∧
    ∀ query : CategoryQueryDto,
      (∀ page, (CategoryService.pageView platform tenantId
        { query with page := some page }).Current w) →
      (CategoryService.PagesOf platform tenantId query w
          (CategoryService.asked platform tenant query w.db) ↔
        (query.parentId = some "" →
          ∀ c ∈ CategoryService.matching platform tenant none query w.db, c.parentId = none) ∧
        ∀ text, query.parentId = some text → text ≠ "" → (uuidIn text).isSome = true) := by
  refine ⟨?_, ?_, ?_, ?_⟩
  · intro recipientId params dates
    exact NotificationService.feed_means_iff dates
  · intro recipientId page limit skip offsets
    exact NotificationService.unreadCount_eq platform tenantId recipientId w page limit offsets
  · intro query category limit read limited positive current
    exact ProductService.list_selects_iff owned read limited positive current
  · intro query current
    exact CategoryService.list_selects_iff owned current

end Filters

section Office

open SampleShop

namespace SampleShop

def seen : Notification :=
  ⟨0x40, tenantId, clerkId, .lowStock, "Low stock", none, none, none, some 1, 0, 1, none⟩

/-- The office, whose clerk has read a notification. -/
def inbox : World := world { unstocked with users := one clerk, notifications := one seen }

def notUnreadOnly : FeedParams := ⟨none, none, some "false", none, none, none⟩

def clerkFeed : NotificationService.FeedFilter := ⟨tenantId, clerkId, true, none, none, none⟩

end SampleShop

theorem feedFilter_clerk : NotificationService.feedFilter plainText (uuidOut tenantId)
    (uuidOut clerkId) (some notUnreadOnly.toDto) = .ok clerkFeed := by
  simp [NotificationService.feedFilter]
  rfl

/-- The clerk asks for all notifications and does not get the one that is read. -/
theorem unread_false_hides_read :
    (NotificationService.asked notUnreadOnly clerkFeed inbox.db).length = 1 ∧
      ¬ NotificationService.FeedMeans plainText (uuidOut tenantId) (uuidOut clerkId)
        notUnreadOnly inbox := by
  refine ⟨by decide, fun means => ?_⟩
  obtain ⟨filter, skip, read, -, either⟩ := (NotificationService.feed_means_iff rfl).mp means
  cases feedFilter_clerk.symm.trans read
  rcases either with absent | blank | yes | unread
  · cases absent
  · exact absurd blank (by decide)
  · exact absurd yes (by decide)
  · exact absurd (unread seen List.mem_cons_self (by decide)) (by decide)

theorem list_filters_iff_office :
    NotificationService.FeedMeans plainText (uuidOut tenantId) (uuidOut clerkId)
      ⟨none, none, some "true", none, none, none⟩ inbox ∧
    (∀ page, SafePage page 1 → Selects ((ProductService.findAll plainText (uuidOut tenantId)
        ⟨some page, some 1, none, none, some "true", none, none⟩).runs inbox).1
      (ProductService.cut ⟨some page, some 1, none, none, some "true", none, none⟩)
      (ProductService.asked plainText tenantId none
        ⟨none, some 1, none, none, some "true", none, none⟩ inbox.db)) ∧
    CategoryService.PagesOf plainText (uuidOut tenantId)
      ⟨none, some 1, none, some "", none, none, none⟩ inbox
      (CategoryService.asked plainText tenantId ⟨none, some 1, none, some "", none, none, none⟩
        inbox.db) := by
  obtain ⟨feed, -, products, categories⟩ :=
    list_filters_iff plainText (uuidIn_uuidOut tenantId) inbox
  refine ⟨?_, ?_, ?_⟩
  · have first : offset 1 20 = .ok 0 := (safePage_one 20).offset_ok (by decide) (by decide)
    refine (feed (uuidOut clerkId) ⟨none, none, some "true", none, none, none⟩ rfl).mpr
      ⟨clerkFeed, 0, ?_, first, .inr (.inr (.inl rfl))⟩
    simp [NotificationService.feedFilter]
    rfl
  · exact (products ⟨none, some 1, none, none, some "true", none, none⟩ none 1
      rfl rfl (by decide)
      fun _ _ hit => by cases hit).mpr (.inl (by decide))
  · refine (categories ⟨none, some 1, none, some "", none, none, none⟩
      fun _ _ hit => by cases hit).mpr ⟨fun _ => by decide, fun text same named => ?_⟩
    cases same
    exact absurd rfl named

end Office

end Tenantory
