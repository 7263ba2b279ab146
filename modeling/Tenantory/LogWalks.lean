import Tenantory.AuditLog
import Tenantory.CategoryTree
import Tenantory.NotificationFanOut
import Tenantory.PageWalks

/-! Walks through the audit log and the notification feed. Their rows are ordered by date
and identifier, so every page is cut from the same arrangement. -/

namespace Tenantory

open PagedLists

variable {ρ σ : Type} [Entity ρ]

/-- `r` stands before `s` in descending order of date and identifier. -/
def newer (date : ρ → Timestamp) (r s : ρ) : Prop :=
  date s < date r ∨ date s = date r ∧ (Entity.id s).toNat < (Entity.id r).toNat

/-- A walk through the list gives the rows, each once and in this order. Every page counts
them all and every page but the last is full; a page that is asked for is empty if it is past
the last, and it has no next one if it is the last or past it. -/
structure WalksAll (list : ℕ → Svc (PaginatedResponse σ)) (date : ρ → Timestamp)
    (rows : List ρ)
    (entity : ρ → σ) (limit asked : ℕ) (w : World) : Prop where
  walk : ∃ (responses : List (PaginatedResponse σ)) (sorted : List ρ),
    ((walkPages list).runs w).1 = .ok responses ∧ sorted.Perm rows ∧
    sorted.Pairwise (newer date) ∧ responses.flatMap (·.data) = sorted.map entity ∧
    (∀ response ∈ responses, response.pageMeta.totalItems = rows.length) ∧
    ∀ response ∈ responses.dropLast, response.data.length = limit
  page : ∃ response, ((list asked).runs w).1 = .ok response ∧
    (response.pageMeta.totalPages < asked → response.data = []) ∧
    (response.links.next = none ↔ response.pageMeta.totalPages ≤ asked)

/-- The rows that the server skips are those of the pages before, and all for a page past the
last. -/
structure Reaches (limit total asked : ℕ) : Prop where
  walk : ∀ n, n < max 1 (pageCount total limit) → offset (n + 1) limit = .ok (n * limit)
  page : ∃ skip, offset asked limit = .ok skip ∧
    (max 1 (pageCount total limit) < asked → total ≤ skip)

/-! ## The order -/

/-- Dates are compared whatever the collation. -/
theorem pairwise_newer (platform : Platform) (date : ρ → Timestamp) {rows : List ρ}
    (ids : (rows.map Entity.id).Nodup) :
    (platform.orderBy (fun id => 2 ^ 128 - id.toNat) .desc (fun r => .number (date r))
      rows).Pairwise
      (newer date) := by
  let blind : Platform := { platform with collate := fun _ _ => true }
  have ordered : blind.Ordered := ⟨fun _ _ => .inl rfl, fun _ _ _ _ _ => rfl⟩
  change (blind.orderBy (fun id => 2 ^ 128 - id.toNat) .desc (fun r => .number (date r))
    rows).Pairwise (newer date)
  refine ((Platform.pairwise_precedes ordered rows).and
    (Platform.ids_apart_orderBy ids)).imp ?_
  intro r s both
  obtain ⟨precedes, different⟩ := both
  simp only [Platform.precedes, Platform.le, Bool.and_eq_true, Bool.or_eq_true,
    Bool.not_eq_true', decide_eq_true_eq, decide_eq_false_iff_not, Nat.cast_le] at precedes
  obtain ⟨dates, ranks⟩ := precedes
  have small := (Entity.id s).isLt
  have small' := (Entity.id r).isLt
  have apart : (Entity.id r).toNat ≠ (Entity.id s).toNat := fun same =>
    different (BitVec.eq_of_toNat_eq same)
  rcases Nat.lt_or_ge (date s) (date r) with later | earlier
  · exact .inl later
  · refine .inr ⟨Nat.le_antisymm dates earlier, ?_⟩
    have ranked := ranks.resolve_left (not_not.mpr earlier)
    omega

/-- Dates and identifiers leave one order only. -/
theorem eq_of_newer {date : ρ → Timestamp} {l l' : List ρ} (perm : l.Perm l')
    (newest : l.Pairwise (newer date)) (newest' : l'.Pairwise (newer date)) : l = l' := by
  refine perm.eq_of_pairwise (fun r s _ _ first last => ?_) newest newest'
  rcases first with later | ⟨same, greater⟩
  · rcases last with later' | ⟨same', -⟩
    · exact absurd later' (Nat.lt_asymm later)
    · exact absurd later (same' ▸ Nat.lt_irrefl _)
  · rcases last with later' | ⟨-, greater'⟩
    · exact absurd later' (same ▸ Nat.lt_irrefl _)
    · exact absurd greater' (Nat.lt_asymm greater)

/-! ## The pages -/

theorem offset_one {limit skip : ℕ} (offsets : offset 1 limit = .ok skip) : skip = 0 := by
  have first : Double.round (1 - 1 : ℕ) = .finite 0 Double.onGrid_zero := by
    simpa using Double.round_nat (n := 0) (by norm_num)
  unfold offset at offsets
  rw [first] at offsets
  cases count : Double.round (limit : ℚ) with
  | nan =>
      rw [count] at offsets
      cases offsets
  | infinite negative =>
      rw [count] at offsets
      cases offsets
  | finite q held =>
      have product : Double.finite 0 Double.onGrid_zero * Double.finite q held =
          .finite 0 Double.onGrid_zero := by
        refine Eq.trans ?_ (Double.round_held le_rfl Double.onGrid_zero)
        exact congrArg Double.round (zero_mul q)
      rw [count, product] at offsets
      simpa using offsets.symm

theorem eq_map_of_forall₂ {α β : Type} {f : α → β} {l : List α} {bs : List β}
    (all : List.Forall₂ (fun a b => b = f a) l bs) : bs = l.map f := by
  induction all with
  | nil => rfl
  | cons one _ ih => rw [List.map_cons, ← one, ← ih]

theorem reaches_of_small {limit total asked : ℕ} (positive : 0 < limit) (small : limit < 2 ^ 53)
    (few : total < 2 ^ 53) (near : (asked - 1) * limit < 2 ^ 53) : Reaches limit total asked := by
  constructor
  · intro n inside
    have before : n * limit < 2 ^ 53 := by
      rcases Nat.eq_zero_or_pos n with rfl | later
      · rw [Nat.zero_mul]
        exact Nat.zero_lt_of_lt small
      · exact ((lt_pageCount_iff positive).mp (by omega)).trans few
    have few : n + 1 - 1 < 2 ^ 53 := (Nat.le_mul_of_pos_right n positive).trans_lt before
    exact offset_eq few small before
  · refine ⟨_, offset_eq ((Nat.le_mul_of_pos_right _ positive).trans_lt near) small near,
      fun past => ?_⟩
    exact (pageCount_le_iff positive).mp (by omega)

section Pages

variable {list : ℕ → Svc (PaginatedResponse σ)} {date : ρ → Timestamp}
  {rows sorted : List ρ}
  {entity : ρ → σ} {limit asked : ℕ} {w : World}

/-- The answer to a request whose page begins after `skip` rows. -/
def response (sorted : List ρ) (entity : ρ → σ) (limit : ℕ) (link : ℕ → String)
    (n skip : ℕ) :
    PaginatedResponse σ :=
  paginated (((sorted.drop skip).take limit).map entity) sorted.length
    (max 1 (pageCount sorted.length limit)) n limit link

variable {link : ℕ → String} (positive : 0 < limit) (perm : sorted.Perm rows)
  (newest : sorted.Pairwise (newer date))
  (read : ∀ n, (list (n + 1)).runs w =
    ((offset (n + 1) limit).map (response sorted entity limit link (n + 1)), w))

include perm read

omit [Entity ρ] perm in
theorem walk_response : ((walkPages list).runs w).1 =
    (List.range (max 1 (pageCount sorted.length limit))).mapM fun n =>
      (offset (n + 1) limit).map (response sorted entity limit link (n + 1)) := by
  have least : max 1 (max 1 (pageCount sorted.length limit)) =
      max 1 (pageCount sorted.length limit) := by omega
  rw [walk_answer read fun n answered made => ?_, least]
  obtain ⟨skip, -, rfl⟩ := map_eq_ok.mp made
  rfl

include positive newest

theorem walksAll_of_reaches (reaches : Reaches limit rows.length asked) (first : 0 < asked) :
    WalksAll list date rows entity limit asked w := by
  have count := perm.length_eq
  obtain ⟨pages, skip, offsets, past⟩ := reaches
  rw [← count] at pages past
  constructor
  · let one := fun n => response sorted entity limit link (n + 1) (n * limit)
    have run : ((walkPages list).runs w).1 =
        .ok ((List.range (max 1 (pageCount sorted.length limit))).map one) := by
      rw [walk_response read, mapM_eq_ok, List.forall₂_map_right_iff, List.forall₂_same]
      intro n inside
      rw [pages n (List.mem_range.mp inside)]
      rfl
    refine ⟨_, sorted, run, perm, newest, ?_, ?_, ?_⟩
    · have enough : sorted.length ≤ max 1 (pageCount sorted.length limit) * limit := by
        rw [← pageCount_le_iff positive]
        exact Nat.le_max_right _ _
      rw [List.flatMap_map]
      calc (List.range (max 1 (pageCount sorted.length limit))).flatMap
            (fun n => (PagedLists.page limit sorted n).map entity)
          = (PagedLists.walk limit (fun _ => sorted)
              (max 1 (pageCount sorted.length limit))).map entity := by
            rw [PagedLists.walk, List.map_flatMap]
        _ = sorted.map entity := by rw [walk_same, List.take_of_length_le enough]
    · intro r mem
      obtain ⟨n, -, rfl⟩ := List.mem_map.mp mem
      exact count
    · intro r mem
      obtain ⟨k, last⟩ : ∃ k, max 1 (pageCount sorted.length limit) = k + 1 :=
        Nat.exists_eq_succ_of_ne_zero (by omega)
      rw [last, List.range_succ, List.map_append, List.map_singleton, List.dropLast_concat] at mem
      obtain ⟨n, before, rfl⟩ := List.mem_map.mp mem
      have later : n + 1 < pageCount sorted.length limit := by
        have inside := List.mem_range.mp before
        omega
      have full : (n + 1) * limit ≤ sorted.length :=
        Nat.le_of_lt ((lt_pageCount_iff positive).mp later)
      change ((PagedLists.page limit sorted n).map entity).length = limit
      rw [List.length_map, length_page full]
  · obtain ⟨m, rfl⟩ := Nat.exists_eq_succ_of_ne_zero first.ne'
    refine ⟨response sorted entity limit link (m + 1) skip, ?_, fun behind => ?_, ?_⟩
    · rw [read m, offsets]
      rfl
    · change (((sorted.drop skip).take limit).map entity) = []
      rw [List.drop_eq_nil_of_le (past behind)]
      simp
    · change (if m + 1 < max 1 (pageCount sorted.length limit) then
        some (link (m + 2)) else none) =
        none ↔ max 1 (pageCount sorted.length limit) ≤ m + 1
      split
      · rename_i more
        exact iff_of_false (fun none => by cases none) (not_le.mpr more)
      · rename_i beyond
        exact iff_of_true rfl (not_lt.mp beyond)

omit [Entity ρ] newest in
/-- Where the pages of a whole walk begin. -/
theorem offsets_of_walk (injective : Function.Injective entity) (nodup : rows.Nodup)
    {responses : List (PaginatedResponse σ)} (run : ((walkPages list).runs w).1 = .ok responses)
    (whole : responses.flatMap (·.data) = sorted.map entity)
    (full : ∀ response ∈ responses.dropLast, response.data.length = limit) :
    ∀ n, n < max 1 (pageCount sorted.length limit) →
      offset (n + 1) limit = .ok (n * limit) := by
  rw [walk_response read] at run
  have each := mapM_eq_ok.mp run
  obtain ⟨last, pages⟩ : ∃ last, max 1 (pageCount sorted.length limit) = last + 1 :=
    Nat.exists_eq_succ_of_ne_zero (by omega)
  rw [pages] at each ⊢
  let skips := fun n => ((offset (n + 1) limit).toOption).getD 0
  have read : ∀ n response', (offset (n + 1) limit).map
      (response sorted entity limit link (n + 1)) = .ok response' →
      offset (n + 1) limit = .ok (skips n) ∧
        response' = response sorted entity limit link (n + 1) (skips n) := by
    intro n response' made
    obtain ⟨skip, offsets, rfl⟩ := map_eq_ok.mp made
    have same : skips n = skip := by
      simp only [skips, offsets]
      rfl
    rw [same]
    exact ⟨offsets, rfl⟩
  have shape := eq_map_of_forall₂ (each.imp fun n response' made => (read n response' made).2)
  let cuts := fun n => ((sorted.map entity).drop (skips n)).take limit
  have data : ∀ n, (response sorted entity limit link (n + 1) (skips n)).data = cuts n := by
    intro n
    change ((sorted.drop (skips n)).take limit).map entity = _
    rw [List.map_take, List.map_drop]
  have whole : (List.range (last + 1)).flatMap cuts = sorted.map entity := by
    rw [← whole, shape, List.flatMap_map]
    exact List.flatMap_congr fun n _ => (data n).symm
  have full : ∀ n < last, (cuts n).length = limit := by
    intro n earlier
    rw [← data]
    refine full _ ?_
    rw [shape, List.range_succ, List.map_append, List.map_singleton, List.dropLast_concat]
    exact List.mem_map_of_mem (List.mem_range.mpr earlier)
  have apart : (sorted.map entity).Nodup := (perm.nodup_iff.mpr nodup).map injective
  intro n inside
  have place : n < (List.range (last + 1)).length := by simpa using inside
  have made := each.get place (each.length_eq ▸ place)
  simp only [List.get_eq_getElem, List.getElem_range] at made
  have offsets := (read n _ made).1
  rw [offsets]
  refine congrArg Except.ok ?_
  by_cases empty : sorted = []
  · subst empty
    have none : pageCount 0 limit = 0 :=
      Nat.le_zero.mp ((pageCount_le_iff positive).mpr (by simp))
    rw [List.length_nil, none] at pages
    obtain rfl : n = 0 := by omega
    rw [Nat.zero_mul]
    exact offset_one offsets
  · have some : 1 ≤ pageCount sorted.length limit :=
      (lt_pageCount_iff positive).mpr (by simpa [List.length_pos_iff] using empty)
    refine start_eq whole full apart positive (Nat.le_of_lt_succ inside) ?_ rfl
    rw [List.length_map]
    exact (lt_pageCount_iff positive).mp (by omega)

theorem reaches_of_walksAll (injective : Function.Injective entity) (nodup : rows.Nodup)
    (first : 0 < asked) (walks : WalksAll list date rows entity limit asked w) :
    Reaches limit rows.length asked := by
  obtain ⟨⟨responses, sorted', run, perm', newest', whole, -, full⟩, answered⟩ := walks
  obtain rfl : sorted' = sorted := eq_of_newer (perm'.trans perm.symm) newest' newest
  rw [← perm.length_eq]
  refine ⟨offsets_of_walk positive perm read injective nodup run whole full, ?_⟩
  obtain ⟨m, rfl⟩ := Nat.exists_eq_succ_of_ne_zero first.ne'
  obtain ⟨shown, answer, past, -⟩ := answered
  rw [read m] at answer
  obtain ⟨skip, offsets, rfl⟩ := map_eq_ok.mp answer
  refine ⟨skip, offsets, fun behind => ?_⟩
  have none : (((sorted'.drop skip).take limit).map entity) = [] := past behind
  rw [List.map_eq_nil_iff, List.take_eq_nil_iff] at none
  exact List.drop_eq_nil_iff.mp (none.resolve_left positive.ne')

end Pages

/-! ## Filters -/

section Filters

variable {φ : Type} {list : ℕ → Svc (PaginatedResponse σ)} {date : ρ → Timestamp}
  {filter : Except Err φ} {select : φ → List ρ} {entity : ρ → σ}
    {limit asked : ℕ} {w : World}

/-- A walk through the list gives the rows that its filter selects. -/
def WalksFiltered (list : ℕ → Svc (PaginatedResponse σ)) (date : ρ → Timestamp)
    (filter : Except Err φ) (select : φ → List ρ) (entity : ρ → σ) (limit asked : ℕ)
    (w : World) : Prop :=
  ∃ rows, (∀ f, filter = .ok f → rows = select f) ∧
    WalksAll list date rows entity limit asked w

/-- A walk gives the rows of its filter if and only if the server reads the filter and skips
the rows of the pages before. -/
theorem walksFiltered_iff (injective : Function.Injective entity)
    (nodup : ∀ f, (select f).Nodup) (positive : 0 < limit) (first : 0 < asked)
    (link : ℕ → String)
    (sort : List ρ → List ρ) (perm : ∀ rows, (sort rows).Perm rows)
    (newest : ∀ f, (sort (select f)).Pairwise (newer date))
    (read : ∀ f, filter = .ok f → ∀ n, (list (n + 1)).runs w =
      ((offset (n + 1) limit).map (response (sort (select f)) entity limit link (n + 1)), w))
    (unread : ∀ e, filter = .error e → ∀ n, ((list n).runs w).1 = .error e) :
    WalksFiltered list date filter select entity limit asked w ↔
      ∃ f, filter = .ok f ∧ Reaches limit (select f).length asked := by
  constructor
  · rintro ⟨rows, known, walks⟩
    cases made : filter with
    | error e =>
        obtain ⟨shown, answer, -⟩ := walks.page
        rw [unread e made] at answer
        cases answer
    | ok f =>
        obtain rfl := known f made
        exact ⟨f, rfl, reaches_of_walksAll positive (perm _) (newest f) (read f made) injective
          (nodup f) first walks⟩
  · rintro ⟨f, made, reaches⟩
    refine ⟨select f, fun g same => ?_, walksAll_of_reaches positive (perm _) (newest f)
      (read f made) reaches first⟩
    cases made.symm.trans same
    rfl

end Filters

/-! ## The log and the feed -/

namespace AuditService

/-- A row of the log as it is shown. -/
def shown (db : Database) (log : Audit) : AuditLogReadModel := { log with actor := actorOf db log }

theorem shown_injective (db : Database) : Function.Injective (shown db) :=
  fun _ _ same => congrArg AuditLogReadModel.toAudit same

variable {platform : Platform} {auditLogs : Table Audit} {tenantId : String}

theorem walks_logs_iff {request : AuditQueryDto} {entityId : Option String} {basePath : String}
    {asked : ℕ} (positive : 0 < request.limit.getD 20) (first : 0 < asked)
    (dates : assertDateRange platform request = .ok ()) (w : World) :
    WalksFiltered (fun page => query
        (readLogs platform auditLogs tenantId { request with page := some page } entityId basePath))
      Audit.createdAt (logFilter platform tenantId request entityId)
      (fun filter => auditLogs.select filter.admits) (shown w.db)
        (request.limit.getD 20) asked w ↔
    ∃ filter, logFilter platform tenantId request entityId = .ok filter ∧
      Reaches (request.limit.getD 20) (auditLogs.select filter.admits).length asked := by
  have range : ∀ page, assertDateRange platform { request with page := some page } = .ok () :=
    fun _ => dates
  have where_ : ∀ page, logFilter platform tenantId { request with page := some page } entityId =
      logFilter platform tenantId request entityId := fun _ => rfl
  refine walksFiltered_iff (shown_injective w.db)
    (fun filter => List.Nodup.of_map _ (nodup_ids _ _))
    positive first (buildLink basePath (request.limit.getD 20)) (newestFirst platform)
    (fun rows => perm_orderBy _ _ _ _ _)
    (fun filter => pairwise_newer platform Audit.createdAt (nodup_ids _ _)) ?_ ?_
  · intro filter read n
    rw [Svc.runs_query]
    unfold readLogs
    have count : (newestFirst platform (auditLogs.select filter.admits)).length =
        (auditLogs.select filter.admits).length := (perm_orderBy _ _ _ _ _).length_eq
    rw [range, where_, read]
    simp only [bind, Except.bind, Option.getD_some]
    cases offset (n + 1) (request.limit.getD 20) with
    | error e => rfl
    | ok skip =>
        simp only [Except.map, response, count]
        rfl
  · intro e failed n
    rw [Svc.runs_query]
    unfold readLogs
    rw [range, where_, failed]
    rfl

end AuditService

namespace NotificationService

variable {platform : Platform} {tenantId recipientId : String}

theorem findFeed_error {request : NotificationQueryDto} {e : Err} {w : World}
    (dates : assertDateRange platform request = .ok ())
    (unread : feedFilter platform tenantId recipientId (some request) = .error e) :
    (findFeed platform tenantId recipientId request).runs w = (.error e, w) := by
  unfold findFeed
  rw [dates]
  simp only [Svc.runs_bind, Svc.runs_query, unread]
  rfl

theorem walks_feed_iff {request : NotificationQueryDto} {asked : ℕ}
    (positive : 0 < request.limit.getD 20) (first : 0 < asked)
    (dates : assertDateRange platform request = .ok ()) (w : World) :
    WalksFiltered (fun page => findFeed platform tenantId recipientId
        { request with page := some page })
      Notification.createdAt (feedFilter platform tenantId recipientId (some request))
      (fun filter => w.db.notifications.select filter.admits) id (request.limit.getD 20) asked w ↔
    ∃ filter, feedFilter platform tenantId recipientId (some request) = .ok filter ∧
      Reaches (request.limit.getD 20) (w.db.notifications.select filter.admits).length asked := by
  have range : ∀ page, assertDateRange platform { request with page := some page } = .ok () :=
    fun _ => dates
  have where_ : ∀ page, feedFilter platform tenantId recipientId
      (some { request with page := some page }) =
        feedFilter platform tenantId recipientId (some request) := fun _ => rfl
  refine walksFiltered_iff Function.injective_id
    (fun filter => List.Nodup.of_map _ (nodup_ids _ _)) positive first
    (buildLink (request.limit.getD 20)) (newestFirst platform) (fun rows => perm_orderBy _ _ _ _ _)
    (fun filter => pairwise_newer platform Notification.createdAt (nodup_ids _ _)) ?_ ?_
  · intro filter read n
    unfold findFeed
    rw [range]
    have count : (newestFirst platform (w.db.notifications.select filter.admits)).length =
        (w.db.notifications.select filter.admits).length := (perm_orderBy _ _ _ _ _).length_eq
    simp only [where_, read, bind, Except.bind, Option.getD_some]
    cases offset (n + 1) (request.limit.getD 20) with
    | error e => rfl
    | ok skip =>
        simp only [Except.map, response, count, List.map_id]
        rfl
  · intro e failed n
    exact congrArg Prod.fst (findFeed_error (range n) ((where_ n).trans failed))

end NotificationService

/-- Walks through the log of a tenant, the log of one of its entities and the feed of a
recipient give the rows that their filters select, in descending order of date and identifier,
if and only if the server reads the filters and skips the rows of the pages before. -/
theorem log_and_feed_walks_iff (platform : Platform) (tenantId : String) {asked : ℕ}
    (first : 0 < asked) (w : World) :
    (∀ (auditLogs : Table Audit) (request : AuditQueryDto),
      0 < request.limit.getD 20 → AuditService.assertDateRange platform request = .ok () →
      (WalksFiltered (fun page =>
          AuditService.findLogs platform auditLogs tenantId { request with page := some page })
        Audit.createdAt (AuditService.logFilter platform tenantId request none)
        (fun filter => auditLogs.select filter.admits) (AuditService.shown w.db)
        (request.limit.getD 20) asked w ↔
      ∃ filter, AuditService.logFilter platform tenantId request none = .ok filter ∧
        Reaches (request.limit.getD 20) (auditLogs.select filter.admits).length asked)) ∧
    (∀ (auditLogs : Table Audit) (entityId : String) (request : AuditQueryDto),
      0 < request.limit.getD 20 → AuditService.assertDateRange platform request = .ok () →
      (WalksFiltered (fun page => AuditService.findEntityLogs platform auditLogs tenantId entityId
          { request with page := some page })
        Audit.createdAt (AuditService.logFilter platform tenantId request (some entityId))
        (fun filter => auditLogs.select filter.admits) (AuditService.shown w.db)
        (request.limit.getD 20) asked w ↔
      ∃ filter, AuditService.logFilter platform tenantId request (some entityId) = .ok filter ∧
        Reaches (request.limit.getD 20) (auditLogs.select filter.admits).length asked)) ∧
    ∀ (recipientId : String) (request : NotificationQueryDto),
      0 < request.limit.getD 20 → NotificationService.assertDateRange platform
        request = .ok () →
      (WalksFiltered (fun page => NotificationService.findFeed platform tenantId recipientId
          { request with page := some page })
        Notification.createdAt
        (NotificationService.feedFilter platform tenantId recipientId (some request))
        (fun filter => w.db.notifications.select filter.admits) id
          (request.limit.getD 20) asked w ↔
      ∃ filter,
        NotificationService.feedFilter platform tenantId recipientId (some request) = .ok filter ∧
        Reaches (request.limit.getD 20)
          (w.db.notifications.select filter.admits).length asked) := by
  refine ⟨?_, ?_, ?_⟩
  · intro auditLogs request positive dates
    exact AuditService.walks_logs_iff positive first dates w
  · intro auditLogs entityId request positive dates
    exact AuditService.walks_logs_iff positive first dates w
  · intro recipientId request positive dates
    exact NotificationService.walks_feed_iff positive first dates w

section Office

open SampleShop UuidText

namespace SampleShop

def productLog (id : Uuid) (now : Timestamp) : Audit :=
  ⟨id, tenantId, some clerkId, .update, .product, productId, none, none,
    ⟨none, none, none, none⟩,
    now⟩

/-- Two rows of one request and an older one, next to a row about a variant. -/
def auditLogs : Table Audit :=
  ⟨[productLog 0xa1 2, productLog 0xa2 2, productLog 0xa3 1,
    { productLog 0xa4 3 with entityType := .productVariant, entityId := variantId }], by decide⟩

/-- Reads August as the server does, which reads no month by itself. -/
def calendar : Platform :=
  { plainText with
    timestamp := fun text =>
      if text = "2026-08-01" then .ok 1 else .error (.queryFailed "22007") }

def augustLogs : AuditQueryDto := ⟨none, some 2, none, none, none, some "2026-08-01", none⟩

def mail (id : Uuid) (now : Timestamp) : Notification :=
  ⟨id, tenantId, clerkId, .lowStock, "Low stock", none, none, none, none, now, now, none⟩

/-- The office, whose clerk has three notifications. -/
def mailed : World := world { unstocked with
  users := one clerk, notifications := ⟨[mail 0x41 0, mail 0x42 2, mail 0x43 2], by decide⟩ }

def augustFeed : NotificationQueryDto := ⟨none, some 1, none, none, some "2026-08-01", none⟩

end SampleShop

theorem log_and_feed_walks_iff_office :
    WalksFiltered (fun page => AuditService.findLogs calendar auditLogs (uuidOut tenantId)
        { augustLogs with page := some page })
      Audit.createdAt (AuditService.logFilter calendar (uuidOut tenantId) augustLogs none)
      (fun filter => auditLogs.select filter.admits) (AuditService.shown mailed.db) 2 3 mailed ∧
    WalksFiltered (fun page => AuditService.findEntityLogs calendar auditLogs (uuidOut tenantId)
        (uuidOut productId) { augustLogs with page := some page })
      Audit.createdAt
      (AuditService.logFilter calendar (uuidOut tenantId) augustLogs (some (uuidOut productId)))
      (fun filter => auditLogs.select filter.admits) (AuditService.shown mailed.db) 2 3 mailed ∧
    WalksFiltered (fun page => NotificationService.findFeed calendar (uuidOut tenantId)
        (uuidOut clerkId) { augustFeed with page := some page })
      Notification.createdAt (NotificationService.feedFilter calendar (uuidOut tenantId)
        (uuidOut clerkId) (some augustFeed))
      (fun filter => mailed.db.notifications.select filter.admits) id 1 3 mailed := by
  obtain ⟨logs, entityLogs, feed⟩ :=
    log_and_feed_walks_iff calendar (uuidOut tenantId) (show 0 < 3 by decide) mailed
  have reaches : ∀ {limit total : ℕ}, 0 < limit → limit < 2 ^ 50 → total < 2 ^ 53 →
      Reaches limit total 3 := fun positive small few =>
    reaches_of_small positive (by omega) few (by omega)
  refine ⟨?_, ?_, ?_⟩
  · refine (logs auditLogs augustLogs (by decide) rfl).mpr
      ⟨⟨tenantId, none, none, none, some 1, none, none⟩, ?_,
        reaches (by decide) (by decide) (by decide)⟩
    simp [AuditService.logFilter, augustLogs]
    rfl
  · refine (entityLogs auditLogs (uuidOut productId) augustLogs (by decide) rfl).mpr
      ⟨⟨tenantId, none, none, none, some 1, none, some productId⟩, ?_,
        reaches (by decide) (by decide) (by decide)⟩
    simp [AuditService.logFilter, augustLogs]
    rfl
  · refine (feed (uuidOut clerkId) augustFeed (by decide) rfl).mpr
      ⟨⟨tenantId, clerkId, false, none, some 1, none⟩, ?_,
        reaches (by decide) (by decide) (by decide)⟩
    simp [NotificationService.feedFilter, augustFeed]
    rfl

/-- A month passes for a date in the request and not in the server, which rejects the feed. -/
theorem month_rejected :
    ((NotificationService.findFeed calendar (uuidOut tenantId) (uuidOut clerkId)
        { augustFeed with startDate := some "2026-02" }).runs mailed).1 =
      .error (.queryFailed "22007") ∧
    ¬ WalksFiltered (fun page => NotificationService.findFeed calendar (uuidOut tenantId)
        (uuidOut clerkId) { augustFeed with startDate := some "2026-02", page := some page })
      Notification.createdAt (NotificationService.feedFilter calendar (uuidOut tenantId)
        (uuidOut clerkId) (some { augustFeed with startDate := some "2026-02" }))
      (fun filter => mailed.db.notifications.select filter.admits) id 1 1 mailed := by
  have unread : NotificationService.feedFilter calendar (uuidOut tenantId) (uuidOut clerkId)
      (some { augustFeed with startDate := some "2026-02" }) = .error (.queryFailed "22007") := by
    simp [NotificationService.feedFilter]
    rfl
  refine ⟨congrArg Prod.fst (NotificationService.findFeed_error rfl unread), fun walks => ?_⟩
  obtain ⟨filter, read, -⟩ := (NotificationService.walks_feed_iff (by decide) (by decide) rfl
    mailed).mp walks
  rw [unread] at read
  cases read

end Office

end Tenantory
