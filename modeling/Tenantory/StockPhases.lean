import Tenantory.ProgramPool
import Tenantory.StockLedger

/-! Ghost states for concurrent stock operations on one row: which transaction a
call has open, what it has read, whether its write is staged or committed. The
parts of an invariant that only speak about these are here, each with the
lemmas that say how it survives the step of one call. -/

namespace Tenantory

/-- What a call is doing, as far as the others can tell. -/
inductive Phase
  | idle
  | started (tx : ℕ)
  | read (tx : ℕ) (row : StockLevel)
  | wrote (tx : ℕ)
  | committed

namespace Phase

def tx? : Phase → Option ℕ
  | idle | committed => none
  | started tx | read tx _ | wrote tx => some tx

end Phase

variable {ι : Type}

/-- Open transactions have been numbered by the server, each for one call. -/
structure Numbered (nextTx : ℕ) (γ : ι → Phase) : Prop where
  opened : ∀ i tx, (γ i).tx? = some tx → tx < nextTx
  distinct : ∀ i j tx, (γ i).tx? = some tx → (γ j).tx? = some tx → i = j

/-- `order` lists the calls that have committed. -/
structure Listed (γ : ι → Phase) (order : List ι) : Prop where
  nodup : order.Nodup
  members : ∀ i, i ∈ order ↔ γ i = .committed

/-- The writes that wait for a commit: none, or a good one of one call. -/
def OneWriter (good : ι → StockWrite → Prop) (γ : ι → Phase)
    (pending : List (ℕ × StockWrite)) :
    Prop :=
  (pending = [] ∧ ∀ i tx, γ i ≠ .wrote tx) ∨
    ∃ i tx change, pending = [(tx, change)] ∧ γ i = .wrote tx ∧
      (∀ j tx', γ j = .wrote tx' → j = i) ∧ good i change

variable [DecidableEq ι] {γ : ι → Phase} {order : List ι} {i : ι} {tx : ℕ} {g' : Phase}
  {good good' : ι → StockWrite → Prop} {pending : List (ℕ × StockWrite)}

/-- An update of one ghost state is looked up in it or elsewhere. -/
theorem update_cases {j : ι} {g : Phase} (h : Function.update γ i g' j = g) :
    j = i ∧ g' = g ∨ j ≠ i ∧ γ j = g := by
  by_cases hj : j = i
  · subst hj
    exact .inl ⟨rfl, by simpa using h⟩
  · exact .inr ⟨hj, by simpa [Function.update_of_ne hj] using h⟩

theorem Numbered.update {nextTx nextTx' : ℕ} (h : Numbered nextTx γ) (later : nextTx ≤ nextTx')
    (opened : ∀ tx, g'.tx? = some tx → tx < nextTx' ∧ ∀ j, j ≠ i →
      (γ j).tx? ≠ some tx) :
    Numbered nextTx' (Function.update γ i g') where
  opened j tx open_j := by
    rcases update_cases (g := Function.update γ i g' j) rfl with ⟨rfl, same⟩ | ⟨-, same⟩
    · rw [← same] at open_j
      exact (opened tx open_j).1
    · rw [← same] at open_j
      exact (h.opened j tx open_j).trans_le later
  distinct j k tx open_j open_k := by
    rcases update_cases (g := Function.update γ i g' j) rfl with ⟨hj, same⟩ |
      ⟨hj, same⟩ <;>
      rcases update_cases (g := Function.update γ i g' k) rfl with ⟨hk, same'⟩ |
        ⟨hk, same'⟩ <;>
      rw [← same] at open_j <;> rw [← same'] at open_k
    · rw [hj, hk]
    · exact absurd open_k ((opened tx open_j).2 k hk)
    · exact absurd open_j ((opened tx open_k).2 j hj)
    · exact h.distinct j k tx open_j open_k

/-- A call goes on with the transaction that it has, or with none. -/
theorem Numbered.keep {nextTx : ℕ} (h : Numbered nextTx γ)
    (same : ∀ tx, g'.tx? = some tx → (γ i).tx? = some tx) :
    Numbered nextTx (Function.update γ i g') := by
  refine h.update le_rfl fun tx open_i =>
    ⟨h.opened i tx (same tx open_i), fun j hj open_j => ?_⟩
  exact hj (h.distinct j i tx open_j (same tx open_i))

/-- The server gives out the next number. -/
theorem Numbered.start {nextTx : ℕ} (h : Numbered nextTx γ) :
    Numbered (nextTx + 1) (Function.update γ i (.started nextTx)) := by
  refine h.update (Nat.le_succ _) fun tx open_i => ?_
  obtain rfl : nextTx = tx := by simpa [Phase.tx?] using open_i
  refine ⟨Nat.lt_succ_self _, fun j _ open_j => ?_⟩
  exact absurd (h.opened j _ open_j) (Nat.lt_irrefl _)

theorem Listed.update (h : Listed γ order) (live : γ i ≠ .committed)
    (live' : g' ≠ .committed) :
    Listed (Function.update γ i g') order where
  nodup := h.nodup
  members j := by
    rw [h.members]
    by_cases hj : j = i
    · subst hj
      simp [live, live']
    · simp [Function.update_of_ne hj]

theorem Listed.commit (h : Listed γ order) (live : γ i ≠ .committed) :
    Listed (Function.update γ i .committed) (order ++ [i]) where
  nodup := by
    have absent : i ∉ order := fun mem => live ((h.members i).mp mem)
    refine List.nodup_append.mpr ⟨h.nodup, by simp, fun a ha b hb same => ?_⟩
    obtain rfl : b = i := by simpa using hb
    exact absent (same ▸ ha)
  members j := by
    rw [List.mem_append, h.members]
    by_cases hj : j = i
    · subst hj
      simp
    · simp [hj]

theorem OneWriter.update (h : OneWriter good γ pending) (unwritten : ∀ tx, γ i ≠ .wrote tx)
    (unwritten' : ∀ tx, g' ≠ .wrote tx)
    (still : ∀ j change, good j change → good' j change) :
    OneWriter good' (Function.update γ i g') pending := by
  rcases h with ⟨none, quiet⟩ | ⟨k, tx, change, one, wrote_k, only, ok⟩
  · refine .inl ⟨none, fun j tx wrote_j => ?_⟩
    rcases update_cases wrote_j with ⟨-, wrote⟩ | ⟨-, wrote⟩
    · exact unwritten' tx wrote
    · exact quiet j tx wrote
  · have hk : k ≠ i := fun same => unwritten tx (same ▸ wrote_k)
    refine .inr ⟨k, tx, change, one, by rw [Function.update_of_ne hk, wrote_k],
      fun j tx' wrote_j => ?_, still k change ok⟩
    rcases update_cases wrote_j with ⟨-, wrote⟩ | ⟨-, wrote⟩
    · exact absurd wrote (unwritten' tx')
    · exact only j tx' wrote

/-- A call that nobody else's write stands against stages its own. -/
theorem OneWriter.write (h : OneWriter good γ pending) {change : StockWrite}
    (alone : ∀ k tx' other, k ≠ i → γ k = .wrote tx' → good k other →
      pending ≠ [(tx', other)])
    (unwritten : ∀ tx', γ i ≠ .wrote tx') (ok : good i change) :
    OneWriter good (Function.update γ i (.wrote tx)) (pending ++ [(tx, change)]) := by
  rcases h with ⟨none, quiet⟩ | ⟨k, tx', other, one, wrote_k, -, ok'⟩
  · refine .inr ⟨i, tx, change, by simp [none], by simp, fun j tx' wrote_j => ?_, ok⟩
    rcases update_cases wrote_j with ⟨hj, -⟩ | ⟨-, wrote⟩
    · exact hj
    · exact absurd wrote (quiet j tx')
  · have hk : k ≠ i := fun same => unwritten tx' (same ▸ wrote_k)
    exact absurd one (alone k tx' other hk wrote_k ok')

/-- Once the writer has committed or given up, nobody writes. -/
theorem OneWriter.done (quiet : ∀ j tx', γ j = .wrote tx' → j = i)
    (unwritten : ∀ tx, g' ≠ .wrote tx) : OneWriter good (Function.update γ i g') [] := by
  refine .inl ⟨rfl, fun j tx wrote_j => ?_⟩
  rcases update_cases wrote_j with ⟨-, wrote⟩ | ⟨hj, wrote⟩
  · exact unwritten tx wrote
  · exact hj (quiet j tx wrote)

omit [DecidableEq ι] in
/-- What the writer has staged is all that is pending. -/
theorem OneWriter.staged (h : OneWriter good γ pending) (wrote : γ i = .wrote tx) :
    ∃ change, pending = [(tx, change)] ∧ (∀ j tx', γ j = .wrote tx' → j = i) ∧
      good i change := by
  rcases h with ⟨-, quiet⟩ | ⟨k, tx', change, one, wrote_k, only, ok⟩
  · exact absurd wrote (quiet i tx)
  · obtain rfl : i = k := only i tx wrote
    obtain rfl : tx' = tx := by
      rw [wrote_k] at wrote
      exact Phase.wrote.inj wrote
    exact ⟨change, one, only, ok⟩

omit [DecidableEq ι] in
/-- A transaction that has staged nothing has nothing pending. -/
theorem OneWriter.none_of_unwritten {nextTx : ℕ} (h : OneWriter good γ pending)
    (numbered : Numbered nextTx γ) (opened : (γ i).tx? = some tx) (unwritten : γ i ≠ .wrote tx)
    {p : ℕ × StockWrite} (hp : p ∈ pending) : p.1 ≠ tx := by
  rcases h with ⟨none, -⟩ | ⟨k, tx', change, one, wrote_k, -⟩
  · simp [none] at hp
  · obtain rfl : p = (tx', change) := by simpa [one] using hp
    rintro rfl
    have same : k = i := numbered.distinct k i tx' (by simp [wrote_k, Phase.tx?]) opened
    exact unwritten (same ▸ wrote_k)

theorem OneWriter.rollback {nextTx : ℕ} (h : OneWriter good γ pending)
    (numbered : Numbered nextTx γ)
    (opened : (γ i).tx? = some tx) :
    OneWriter good (Function.update γ i .idle) (pending.filter (·.1 != tx)) := by
  by_cases wrote : γ i = .wrote tx
  · obtain ⟨change, one, only, -⟩ := h.staged wrote
    have none : pending.filter (·.1 != tx) = [] := by simp [one]
    rw [none]
    exact OneWriter.done only (by simp)
  · have unwritten : ∀ tx', γ i ≠ .wrote tx' := fun tx' wrote' => by
      rw [wrote'] at opened wrote
      exact wrote (congrArg Phase.wrote (Option.some.inj opened))
    have kept : pending.filter (·.1 != tx) = pending := by
      refine List.filter_eq_self.mpr fun p hp => ?_
      simpa using h.none_of_unwritten numbered opened wrote hp
    rw [kept]
    exact h.update unwritten (by simp) fun _ _ ok => ok

/-! ## Lookups before the transaction -/

section Lookups

variable {G : Type} {P : Protocol World Err Label ι G} {g : G}

theorem sim_query {α : Type} {read : World → Except Err α} {post : G → Except Err α → Prop}
    (answered : ∀ w γ, P.inv w γ → γ i = g → post g (read w))
    (failed : ∀ e, P.fault .query e → post g (.error e)) :
    P.Sim i post (query read).run g :=
  Protocol.Sim.read (fun _ => rfl) (fun _ => rfl) (fun w γ inv at_i _ => answered w γ inv at_i)
    failed

theorem sim_findOneById {tenantId variantId : String}
    {post : G → Except Err ProductVariant → Prop}
    (failed : ∀ e, P.fault .query e → post g (.error e))
    (absent : ∀ w γ, P.inv w γ → γ i = g →
      (∀ tenant id, UuidText.uuidIn tenantId = some tenant →
        UuidText.uuidIn variantId = some id →
        VariantService.readById w.db tenant id = none) → ∀ e, post g (.error e))
    (found : ∀ tenant variant, UuidText.uuidIn tenantId = some tenant →
      UuidText.uuidIn variantId = some variant.id →
        (∃ w γ, P.inv w γ ∧ VariantService.readById w.db tenant variant.id = some variant) →
          post g (.ok variant)) :
    P.Sim i post (VariantService.findOneById tenantId variantId).run g := by
  unfold VariantService.findOneById
  rw [Svc.run_bind]
  refine Protocol.Sim.bind (sim_query (fun w γ inv at_i => ?_) fun e faulty => failed e faulty)
  cases hv : UuidText.uuidIn variantId with
  | none =>
      simp only [uuidParam, hv, bind, Except.bind, Svc.next_error]
      exact absent w γ inv at_i (fun _ _ _ h => by simp [hv] at h) _
  | some id =>
      cases ht : UuidText.uuidIn tenantId with
      | none =>
          simp only [uuidParam, hv, ht, bind, Except.bind, Svc.next_error]
          exact absent w γ inv at_i (fun _ _ h _ => by simp [ht] at h) _
      | some tenant =>
          simp only [uuidParam, hv, ht, bind, Except.bind, pure, Except.pure, Svc.next_ok]
          cases read : VariantService.readById w.db tenant id with
          | none =>
              refine absent w γ inv at_i (fun tenant' id' ht' hv' => ?_) _
              rw [ht] at ht'
              rw [hv] at hv'
              rw [← Option.some.inj ht', ← Option.some.inj hv', read]
          | some variant =>
              have same := variant_id read
              refine found tenant variant ht (by rw [hv, same]) ⟨w, γ, inv, ?_⟩
              rw [same, read]

theorem sim_findWarehouse {tenantId id : String} {post : G → Except Err Warehouse → Prop}
    (failed : ∀ e, P.fault .query e → post g (.error e))
    (absent : ∀ w γ, P.inv w γ → γ i = g →
      (∀ tenant id', UuidText.uuidIn tenantId = some tenant → UuidText.uuidIn id = some id' →
        WarehouseService.readById w.db tenant id' = none) → ∀ e, post g (.error e))
    (found : ∀ tenant warehouse, UuidText.uuidIn tenantId = some tenant →
      UuidText.uuidIn id = some warehouse.id →
        (∃ w γ, P.inv w γ ∧ WarehouseService.readById w.db tenant warehouse.id =
          some warehouse) →
          post g (.ok warehouse)) :
    P.Sim i post (WarehouseService.findOne tenantId id).run g := by
  unfold WarehouseService.findOne
  rw [Svc.run_bind]
  refine Protocol.Sim.bind (sim_query (fun w γ inv at_i => ?_) fun e faulty => failed e faulty)
  cases ht : UuidText.uuidIn tenantId with
  | none =>
      simp only [uuidParam, ht, bind, Except.bind, Svc.next_error]
      exact absent w γ inv at_i (fun _ _ h _ => by simp [ht] at h) _
  | some tenant =>
      cases hw : UuidText.uuidIn id with
      | none =>
          simp only [uuidParam, ht, hw, bind, Except.bind, Svc.next_error]
          exact absent w γ inv at_i (fun _ _ _ h => by simp [hw] at h) _
      | some warehouseId =>
          simp only [uuidParam, ht, hw, bind, Except.bind, pure, Except.pure, Svc.next_ok]
          cases read : WarehouseService.readById w.db tenant warehouseId with
          | none =>
              refine absent w γ inv at_i (fun tenant' id' ht' hw' => ?_) _
              rw [ht] at ht'
              rw [hw] at hw'
              rw [← Option.some.inj ht', ← Option.some.inj hw', read]
          | some warehouse =>
              have same := warehouse_id read
              refine found tenant warehouse ht (by rw [hw, same]) ⟨w, γ, inv, ?_⟩
              rw [same, read]

end Lookups

end Tenantory
