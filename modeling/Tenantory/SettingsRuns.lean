import Tenantory.NotedRuns
import Tenantory.SampleShop
import Tenantory.StoredRows
import Tenantory.TenantSettingService

/-! Updates of one tenant's settings that interleave. Each merges into the document that
it has read and saves the whole document, so that it undoes what has been saved since. -/

namespace Tenantory

namespace Json

/-- Documents that show the same under every key. -/
def SameFields (a b : Json) : Prop := ∀ key, a.field? key = b.field? key

theorem SameFields.refl (a : Json) : SameFields a a := fun _ => rfl

theorem SameFields.symm {a b : Json} (h : SameFields a b) :
    SameFields b a := fun key => (h key).symm

theorem SameFields.trans {a b c : Json} (h : SameFields a b) (h' : SameFields b c) :
    SameFields a c := fun key => (h key).trans (h' key)

theorem field?_eq (a : Json) (key : String) :
    a.field? key = (a.fields.find? fun f => f.1 == key).map Prod.snd := by
  cases a <;> rfl

theorem field?_spread (a b : Json) (key : String) :
    (a.spread b).field? key = (b.field? key).or (a.field? key) := by
  let replaced : String × Json → String × Json := fun field =>
    (b.fields.find? (·.1 == field.1)).getD field
  have spread : a.spread b = .obj (a.fields.map replaced ++
      b.fields.filter fun field => !a.fields.any (·.1 == field.1)) := by
    unfold Json.spread
    refine congrArg (fun kept => Json.obj (kept ++ _)) (List.map_congr_left fun field _ => ?_)
    dsimp only [replaced]
    cases b.fields.find? (·.1 == field.1) <;> rfl
  have keeps : ∀ field, (replaced field).1 = field.1 := by
    intro field
    dsimp only [replaced]
    cases found : b.fields.find? (·.1 == field.1) with
    | none => rfl
    | some other => simpa using List.find?_some found
  have own : (a.fields.map replaced).find? (fun f => f.1 == key) =
      (a.fields.find? fun f => f.1 == key).map replaced := by
    rw [List.find?_map]
    refine congrArg (fun p => (a.fields.find? p).map replaced) (funext fun field => ?_)
    rw [Function.comp_apply, keeps]
  rw [spread, field?_eq a, field?_eq b, Json.field?, List.find?_append, own]
  cases here : a.fields.find? fun f => f.1 == key with
  | some field =>
      have same : field.1 = key := by simpa using List.find?_some here
      dsimp only [Option.map_some, Option.some_or, replaced]
      rw [same]
      cases b.fields.find? fun f => f.1 == key <;> rfl
  | none =>
      rw [Option.map_none, Option.none_or, List.find?_filter, Option.map_none, Option.or_none]
      refine congrArg (fun p => (b.fields.find? p).map Prod.snd) (funext fun field => ?_)
      cases test : field.1 == key with
      | false => simp
      | true =>
          have absent : a.fields.any (·.1 == field.1) = false := by
            rw [beq_iff_eq.mp test, List.any_eq_false]
            simpa using here
          rw [absent]
          rfl

theorem SameFields.spread {a a' b : Json} (h : SameFields a a') :
    SameFields (a.spread b) (a'.spread b) := by
  intro key
  rw [field?_spread, field?_spread, h key]

/-- A second merge of the same fields changes nothing. -/
theorem spread_spread (a b : Json) : SameFields ((a.spread b).spread b) (a.spread b) := by
  intro key
  rw [field?_spread, field?_spread]
  cases b.field? key <;> rfl

/-- Documents that agree outside the fields of a third are the same once it is merged. -/
theorem spread_congr {a a' b : Json}
    (agree : ∀ key, b.field? key = none → a.field? key = a'.field? key) :
    SameFields (a.spread b) (a'.spread b) := by
  intro key
  rw [field?_spread, field?_spread]
  cases there : b.field? key with
  | none => exact agree key there
  | some value => rfl

end Json

namespace TenantSettingService

open UuidText

structure SettingsCall where
  context : Option AuditContextData
  tenantId : String
  dto : UpdateSettingsDto

namespace SettingsCall

def program (call : SettingsCall) : Svc TenantSetting :=
  updateSettings call.context call.tenantId call.dto

/-- The fields that a call sets. -/
def changes (call : SettingsCall) : Json := call.dto.config.toOption.getD .emptyObject

theorem merged_changes (call : SettingsCall) (read : TenantSetting) :
    Json.SameFields (merged call.dto read).config (read.config.spread call.changes) := by
  intro key
  unfold merged changes
  cases call.dto.config with
  | value config => rfl
  | undefined => exact (Json.field?_spread read.config .emptyObject key).symm
  | null => exact (Json.field?_spread read.config .emptyObject key).symm

end SettingsCall

def settingsOf (tenant : Uuid) (db : Database) : Option TenantSetting :=
  db.tenantSettings.find? fun s => s.tenantId == tenant

theorem settingsOf_eq {tenant : Uuid} {db : Database} {row : TenantSetting}
    (mem : row ∈ db.tenantSettings) (owned : row.tenantId = tenant) :
    settingsOf tenant db = some row := by
  refine Table.find?_of_mem mem (by simpa using owned) fun s _ same => ?_
  have both : row.tenantId = s.tenantId := owned.trans (beq_iff_eq.mp same).symm
  show (row.id == s.id || row.tenantId == s.tenantId) = true
  rw [beq_iff_eq.mpr both, Bool.or_true]

/-! ## One save -/

/-- A save of settings whose row has been loaded writes the config if it differs from the
loaded one. -/
theorem saveLoaded_config {edited stored row saved : TenantSetting} {loaded : Database}
    {w w' : World} (found : loaded.rowById TenantSetting edited.id = some stored)
    (owned : stored.tenantId = edited.tenantId) (mem : row ∈ w.db.tenantSettings)
    (id : row.id = edited.id) (h : saveLoaded edited loaded w = .ok (saved, w')) :
    ∃ row' ∈ w'.db.tenantSettings, row'.id = row.id ∧ row'.tenantId = row.tenantId ∧
      row'.config = if edited.config = stored.config then row.config else edited.config := by
  unfold saveLoaded at h
  rw [found] at h
  obtain ⟨v, updated, same⟩ := bind_eq_ok.mp h
  cases same
  obtain ⟨-, t, rows, rfl⟩ := World.update_ok updated
  have named : stored.id = edited.id := (Database.rowById_eq_some found).2
  have kept : (overwrite edited w.clock stored).id = edited.id ∧
      (overwrite edited w.clock stored).tenantId = edited.tenantId ∧
      (overwrite edited w.clock stored).config = edited.config := by
    unfold overwrite
    split
    · rename_i same
      rw [same]
      exact ⟨rfl, rfl, rfl⟩
    · split <;> exact ⟨rfl, rfl, rfl⟩
  refine ⟨merge (overwrite edited w.clock stored) stored row, ?_, ?_, ?_, ?_⟩
  · have mapped : (if Entity.id row == edited.id then
        merge (overwrite edited w.clock stored) stored row else row) ∈ t.rows := by
      rw [rows]
      exact List.mem_map_of_mem mem
    have here : (Entity.id row == edited.id) = true := beq_iff_eq.mpr id
    rwa [if_pos here] at mapped
  · change column _ _ _ = _
    rw [kept.1, named, column, if_pos rfl]
  · change column _ _ _ = _
    rw [kept.2.1, owned, column, if_pos rfl]
  · change column _ _ _ = _
    rw [kept.2.2, column]

/-! ## Interleavings -/

section Pool

variable {ι : Type} [DecidableEq ι]

/-- Calls, none of which has begun. -/
def settingsPool (calls : ι → SettingsCall) (w : World) :
    Pool World Err Label ι (Except Err TenantSetting) :=
  ⟨w, fun i => (calls i).program.run⟩

/-- The first query of a call shows it the settings. -/
def noteRead (tenant : Uuid) (i : ι) (label : Label) (w : World)
    (seen : ι → Option TenantSetting) : ι → Option TenantSetting :=
  match label with
  | .query => if (seen i).isNone then Function.update seen i (settingsOf tenant w.db) else seen
  | _ => seen

/-- What a call saves over agrees with what it has read, but for the fields that it sets;
or its save has loaded what it would write, and does not write it. -/
def MergesCurrent (calls : ι → SettingsCall) (tenant : Uuid)
    (s : World × (ι → Option TenantSetting)) (i : ι) (label : Label) : Prop :=
  match label with
  | .save _ loaded =>
      ∀ read stored, s.2 i = some read → settingsOf tenant s.1.db = some stored →
      (∀ key, (calls i).changes.field? key = none →
        read.config.field? key = stored.config.field? key) ∨
      (settingsOf tenant loaded).map (·.config) = some (merged (calls i).dto read).config
  | _ => True

/-- A document with the changes of calls merged into it, one after the other. -/
def mergedInOrder (calls : ι → SettingsCall) (initial : Json) (order : List ι) : Json :=
  order.foldl (fun config i => config.spread (calls i).changes) initial

inductive SettingsPhase
  | reading
  | holding (read : TenantSetting)
  | counted
  | lost

structure SettingsInv (calls : ι → SettingsCall) (tenant rowId : Uuid) (initial : Json)
    (s : World × (ι → Option TenantSetting)) (γ : ι → SettingsPhase) : Prop where
  reading : ∀ i, γ i = .reading → s.2 i = none
  holding : ∀ i read, γ i = .holding read →
    s.2 i = some read ∧ read.id = rowId ∧ read.tenantId = tenant
  stored : ∃ row ∈ s.1.db.tenantSettings, row.id = rowId ∧ row.tenantId = tenant ∧
    ∃ order : List ι, order.Nodup ∧ (∀ i, i ∈ order ↔ γ i = .counted) ∧
      Json.SameFields row.config (mergedInOrder calls initial order)

variable {calls : ι → SettingsCall} {tenant rowId : Uuid} {initial : Json} {w w' : World}
  {seen seen' : ι → Option TenantSetting} {γ : ι → SettingsPhase} {i : ι}
    {g : SettingsPhase}

namespace SettingsInv

/-- A call goes on without a change of the settings. -/
theorem move (inv : SettingsInv calls tenant rowId initial (w, seen) γ) (open_ : γ i ≠ .counted)
    (begun : g ≠ .reading) (uncounted : g ≠ .counted)
    (others : ∀ j, j ≠ i → seen' j = seen j)
    (held : ∀ read, g = .holding read →
      seen' i = some read ∧ read.id = rowId ∧ read.tenantId = tenant)
    (same : w'.db.tenantSettings = w.db.tenantSettings) :
    SettingsInv calls tenant rowId initial (w', seen') (Function.update γ i g) := by
  obtain ⟨reading, holding, row, mem, id, owner, order, nodup, counted, config⟩ := inv
  refine ⟨fun j phase => ?_, fun j read phase => ?_, row, ?_, id, owner, order, nodup,
    fun j => ?_, config⟩
  · by_cases hj : j = i
    · rw [hj, Function.update_self] at phase
      exact absurd phase begun
    · rw [Function.update_of_ne hj] at phase
      exact (others j hj).trans (reading j phase)
  · by_cases hj : j = i
    · rw [hj, Function.update_self] at phase
      rw [hj]
      exact held read phase
    · rw [Function.update_of_ne hj] at phase
      change seen' j = some read ∧ _
      rw [others j hj]
      exact holding j read phase
  · change row ∈ w'.db.tenantSettings
    rw [same]
    exact mem
  · by_cases hj : j = i
    · rw [hj, Function.update_self, counted]
      exact iff_of_false open_ uncounted
    · rw [Function.update_of_ne hj, counted]

/-- A call counts: the settings are what they were with its changes merged. -/
theorem count (inv : SettingsInv calls tenant rowId initial (w, seen) γ)
    (open_ : γ i ≠ .counted)
    (others : ∀ j, j ≠ i → seen' j = seen j)
    (saved : ∀ row ∈ w.db.tenantSettings, row.id = rowId → row.tenantId = tenant →
      ∃ row' ∈ w'.db.tenantSettings, row'.id = rowId ∧ row'.tenantId = tenant ∧
        Json.SameFields row'.config (row.config.spread (calls i).changes)) :
    SettingsInv calls tenant rowId initial (w', seen') (Function.update γ i .counted) := by
  obtain ⟨reading, holding, row, mem, id, owner, order, nodup, counted, config⟩ := inv
  obtain ⟨row', mem', id', owner', config'⟩ := saved row mem id owner
  refine ⟨fun j phase => ?_, fun j read phase => ?_, row', mem', id', owner', order ++ [i], ?_,
    fun j => ?_, ?_⟩
  · by_cases hj : j = i
    · rw [hj, Function.update_self] at phase
      cases phase
    · rw [Function.update_of_ne hj] at phase
      exact (others j hj).trans (reading j phase)
  · by_cases hj : j = i
    · rw [hj, Function.update_self] at phase
      cases phase
    · rw [Function.update_of_ne hj] at phase
      change seen' j = some read ∧ _
      rw [others j hj]
      exact holding j read phase
  · refine List.nodup_append.mpr ⟨nodup, List.nodup_singleton i, fun a ha b hb same => ?_⟩
    rw [List.mem_singleton] at hb
    exact open_ ((counted i).mp (hb ▸ same ▸ ha))
  · rw [List.mem_append, List.mem_singleton]
    by_cases hj : j = i
    · rw [hj, Function.update_self]
      exact iff_of_true (.inr rfl) rfl
    · rw [Function.update_of_ne hj, ← counted j]
      exact or_iff_left hj
  · unfold mergedInOrder
    rw [List.foldl_append]
    exact config'.trans config.spread

omit [DecidableEq ι] in
/-- A step that leaves the fields of the settings as they are. -/
theorem beside (inv : SettingsInv calls tenant rowId initial (w, seen) γ)
    (saved : ∀ row ∈ w.db.tenantSettings, row.id = rowId → row.tenantId = tenant →
      ∃ row' ∈ w'.db.tenantSettings, row'.id = rowId ∧ row'.tenantId = tenant ∧
        row'.config = row.config) :
    SettingsInv calls tenant rowId initial (w', seen) γ := by
  obtain ⟨reading, holding, row, mem, id, owner, order, nodup, counted, config⟩ := inv
  obtain ⟨row', mem', id', owner', same⟩ := saved row mem id owner
  exact ⟨reading, holding, row', mem', id', owner', order, nodup, counted, same ▸ config⟩

end SettingsInv

def settingsProtocol (calls : ι → SettingsCall) (tenant rowId : Uuid) (initial : Json) :
    Protocol (World × (ι → Option TenantSetting)) Err Label ι SettingsPhase where
  inv := SettingsInv calls tenant rowId initial
  fault := dbFault
  cond := MergesCurrent calls tenant
  holds _ := False

section Simulation

variable {α : Type} {post : SettingsPhase → Except Err α → Prop}

theorem sim_record {context : Option AuditContextData} {input : AuditEventInput}
    {post : SettingsPhase → Except Err Unit → Prop} (answered : ∀ r, post .counted r) :
    (settingsProtocol calls tenant rowId initial).Sim i post
      ((AuditService.record context input).run.noted (noteRead tenant i)) .counted := by
  unfold AuditService.record
  cases AuditService.event? context input with
  | none => exact answered _
  | some event =>
      refine Protocol.Sim.noted (fun _ => rfl)
        (fun w seen γ inv hg _ => ⟨.counted, ?_, answered _⟩)
        fun e faulty => faulty.elim
      rw [← hg, Function.update_eq_self]
      exact inv.beside fun row mem id owner => ⟨row, mem, id, owner, rfl⟩

theorem sim_getSettings {text : String} (owned : uuidIn text = some tenant)
    {post : SettingsPhase → Except Err TenantSetting → Prop}
    (found : ∀ read : TenantSetting, read.id = rowId → read.tenantId = tenant →
      post (.holding read) (.ok read)) (failed : ∀ e, post .lost (.error e)) :
    (settingsProtocol calls tenant rowId initial).Sim i post
      ((getSettings text).run.noted (noteRead tenant i)) .reading := by
  unfold getSettings
  rw [Svc.run_bind, Prog.noted_bind]
  refine Protocol.Sim.bind (Protocol.Sim.noted (fun _ => rfl) (fun w seen γ inv hg _ => ?_)
    fun e _ w seen γ inv hg => ?_)
  · obtain ⟨row, mem, id, owner, -⟩ := inv.stored
    have shown := settingsOf_eq mem owner
    have answer : readByTenant text w = .ok (some row) := by
      unfold readByTenant
      rw [uuidParam_eq_ok.mpr owned, ← shown]
      rfl
    have unread : seen i = none := inv.reading i hg
    have noted : noteRead tenant i .query w seen = Function.update seen i (some row) := by
      change (if (seen i).isNone then _ else _) = _
      rw [unread, shown]
      rfl
    refine ⟨.holding row, ?_, ?_⟩
    · change SettingsInv calls tenant rowId initial (w, noteRead tenant i .query w seen) _
      rw [noted]
      refine inv.move (by simp [hg]) (by simp) (by simp)
        (fun j other => Function.update_of_ne other _ _) (fun read same => ?_) rfl
      cases same
      exact ⟨Function.update_self i _ seen, id, owner⟩
    · change Protocol.Sim _ i post (Prog.noted _ (Svc.next _ (readByTenant text w))) _
      rw [answer]
      exact found row id owner
  · exact ⟨.lost, inv.move (by simp [hg]) (by simp) (by simp) (fun _ _ => rfl) (by simp) rfl,
      failed e⟩

section Save

variable {read edited stored : TenantSetting} {loaded : Database}
  {post : SettingsPhase → Except Err TenantSetting → Prop}
  (saved : ∀ row, post .counted (.ok row)) (failed : ∀ g e, post g (.error e))
  (id : edited.id = rowId) (owner : edited.tenantId = tenant)

include saved failed id owner

/-- The save of a call that has found its changes in the settings. -/
theorem sim_save_counted (found : loaded.rowById TenantSetting edited.id = some stored)
    (owned : stored.tenantId = tenant) (same : edited.config = stored.config) :
    (settingsProtocol calls tenant rowId initial).Sim i post
      ((statement (.save (.setting edited) loaded) (saveLoaded edited loaded)).run.noted
        (noteRead tenant i)) .counted := by
  refine Protocol.Sim.noted (fun _ => rfl) (fun w seen γ inv hg _ => ?_)
    fun e _ w seen γ inv hg => ⟨.counted, by rwa [← hg, Function.update_eq_self], failed _ e⟩
  refine ⟨.counted, ?_, ?_⟩
  · rw [← hg, Function.update_eq_self]
    refine inv.beside fun row mem id' owner' => ?_
    cases written : saveLoaded edited loaded w with
    | error e =>
        refine ⟨row, ?_, id', owner', rfl⟩
        dsimp only
        rw [written]
        exact mem
    | ok result =>
        obtain ⟨row', mem', same_id, same_owner, config⟩ :=
          saveLoaded_config found (owned.trans owner.symm) mem (id'.trans id.symm) written
        rw [if_pos same] at config
        refine ⟨row', ?_, same_id.trans id', same_owner.trans owner', config⟩
        dsimp only
        rw [written]
        exact mem'
  · dsimp only
    cases saveLoaded edited loaded w with
    | error e => exact failed _ e
    | ok result => exact saved _

/-- The save of a call that writes the config. -/
theorem sim_save_holding (found : loaded.rowById TenantSetting edited.id = some stored)
    (mem : stored ∈ loaded.tenantSettings) (owned : stored.tenantId = tenant)
    (other : edited.config ≠ stored.config) (merges : edited = merged (calls i).dto read) :
    (settingsProtocol calls tenant rowId initial).Sim i post
      ((statement (.save (.setting edited) loaded) (saveLoaded edited loaded)).run.noted
        (noteRead tenant i)) (.holding read) := by
  refine Protocol.Sim.noted (fun _ => rfl) (fun w seen γ inv hg cond => ?_)
    fun e _ w seen γ inv hg =>
      ⟨.holding read, by rwa [← hg, Function.update_eq_self], failed _ e⟩
  cases written : saveLoaded edited loaded w with
  | error e =>
      refine ⟨.holding read, ?_, ?_⟩
      · rw [← hg, Function.update_eq_self]
        dsimp only
        rw [written]
        exact inv
      · dsimp only
        rw [written]
        exact failed _ e
  | ok result =>
      refine ⟨.counted, ?_, ?_⟩
      · dsimp only
        rw [written]
        refine inv.count (by simp [hg]) (fun _ _ => rfl) fun row here id' owner' => ?_
        obtain ⟨row', mem', same_id, same_owner, config⟩ :=
          saveLoaded_config found (owned.trans owner.symm) here (id'.trans id.symm) written
        rw [if_neg other] at config
        refine ⟨row', mem', same_id.trans id', same_owner.trans owner', ?_⟩
        have agree :=
          (cond read row (inv.holding i read hg).1 (settingsOf_eq here owner')).resolve_right
          fun unwritten => by
            rw [settingsOf_eq mem owned, ← merges] at unwritten
            exact other (Option.some.inj unwritten).symm
        rw [config, merges]
        exact ((calls i).merged_changes read).trans (Json.spread_congr agree)
      · dsimp only
        rw [written]
        exact saved _

omit id owner in
theorem sim_saving (named : read.id = rowId) (owned : read.tenantId = tenant) :
    (settingsProtocol calls tenant rowId initial).Sim i post
      ((saving (.setting (merged (calls i).dto read))
        (saveLoaded (merged (calls i).dto read))).run.noted (noteRead tenant i))
        (.holding read) := by
  have id : (merged (calls i).dto read).id = rowId := by
    rw [← named]
    unfold merged
    split <;> rfl
  have owner : (merged (calls i).dto read).tenantId = tenant := by
    rw [← owned]
    unfold merged
    split <;> rfl
  unfold saving
  rw [Svc.run_bind, Prog.noted_bind]
  refine Protocol.Sim.bind (Protocol.Sim.noted (fun _ => rfl) (fun w seen γ inv hg _ => ?_)
    fun e _ w seen γ inv hg => ⟨.holding read, by rwa [← hg, Function.update_eq_self],
      failed _ e⟩)
  obtain ⟨row, mem, id', owner', -⟩ := inv.stored
  have found : w.db.rowById TenantSetting (merged (calls i).dto read).id = some row := by
    rw [id, ← id']
    exact Database.rowById_of_mem mem
  have known : seen i = some read := (inv.holding i read hg).1
  have noted : noteRead tenant i .query w seen = seen := by
    change (if (seen i).isNone then _ else _) = _
    rw [known]
    rfl
  by_cases same : (merged (calls i).dto read).config = row.config
  · refine ⟨.counted, ?_, sim_save_counted saved failed id owner found owner' same⟩
    change SettingsInv calls tenant rowId initial (w, noteRead tenant i .query w seen) _
    rw [noted]
    refine inv.count (by simp [hg]) (fun _ _ => rfl) fun row' mem' id'' owner'' => ?_
    obtain rfl : row' = row := Table.eq_of_id mem' mem (id''.trans id'.symm)
    refine ⟨row', mem', id'', owner'', ?_⟩
    -- a second merge of its changes leaves them as they are
    have once := (calls i).merged_changes read
    rw [same] at once
    exact once.trans ((Json.spread_spread _ _).symm.trans once.symm.spread)
  · refine ⟨.holding read, ?_, sim_save_holding saved failed id owner found mem
      owner' same rfl⟩
    change SettingsInv calls tenant rowId initial (w, noteRead tenant i .query w seen) _
    rw [noted, ← hg, Function.update_eq_self]
    exact inv

end Save

theorem sim_program (one : uuidIn (calls i).tenantId = some tenant) :
    (settingsProtocol calls tenant rowId initial).Sim i
      (fun g r => (∀ saved, r = .ok saved → g = .counted) ∧ ¬ False)
      ((calls i).program.run.noted (noteRead tenant i)) .reading := by
  unfold SettingsCall.program updateSettings
  rw [Svc.run_bind, Prog.noted_bind]
  refine Protocol.Sim.bind (sim_getSettings one (fun read named owned => ?_) fun e => ?_)
  · rw [Svc.next_ok, Svc.run_bind, Prog.noted_bind]
    refine Protocol.Sim.bind (sim_saving (fun row => ?_) (fun g e => ?_) named owned)
    · rw [Svc.next_ok, Svc.run_bind, Prog.noted_bind]
      refine Protocol.Sim.bind (sim_record fun r => ?_)
      cases r with
      | ok _ => exact ⟨fun _ _ => rfl, id⟩
      | error e => exact ⟨fun _ _ => rfl, id⟩
    · exact ⟨by simp, id⟩
  · exact ⟨by simp, id⟩

end Simulation

/-! ## Runs -/

/-- The observer sees every interleaving of the calls. -/
theorem settings_runs_noted {c : Pool World Err Label ι (Except Err TenantSetting)}
    (run : Pool.Reach dbFault (fun _ _ _ => True) (settingsPool calls w) c) :
    ∃ seen, Pool.Reach dbFault (fun _ _ _ => True)
      ((settingsPool calls w).noted (noteRead tenant) fun _ => none)
      (c.noted (noteRead tenant) seen) :=
  Pool.noted_of_reach run _

/-- The settings are what some serial order of the calls makes of the first config. -/
structure MergedInTurn (calls : ι → SettingsCall) (tenant : Uuid) (initial : Json)
    (db : Database) : Prop where
  serial : ∃ order : List ι, order.Nodup ∧ (∀ i, i ∈ order) ∧
    ∃ settings, settingsOf tenant db = some settings ∧
      Json.SameFields settings.config (mergedInOrder calls initial order)
  disjoint : (∀ i j, i ≠ j → ∀ key, ((calls i).changes.field? key).isSome →
      (calls j).changes.field? key = none) →
    ∀ i key value, (calls i).changes.field? key = some value →
      ∃ settings, settingsOf tenant db = some settings ∧
        settings.config.field? key = some value

omit [DecidableEq ι] in
/-- A field that only one of the calls sets is there once the call is merged. -/
theorem field?_mergedInOrder {order : List ι} {key : String} {value : Json} (mem : i ∈ order)
    (set : (calls i).changes.field? key = some value)
    (only : ∀ j, j ≠ i → (calls j).changes.field? key = none) :
    (mergedInOrder calls initial order).field? key = some value := by
  induction order using List.reverseRecOn with
  | nil => cases mem
  | append_singleton order j ih =>
      unfold mergedInOrder at ih ⊢
      rw [List.foldl_append]
      change ((order.foldl _ initial).spread (calls j).changes).field? key = _
      rw [Json.field?_spread]
      by_cases last : j = i
      · rw [last, set]
        rfl
      · have earlier : i ∈ order := by
          refine (List.mem_append.mp mem).resolve_right fun h => ?_
          exact last (List.mem_singleton.mp h).symm
        rw [only j last, Option.none_or]
        exact ih earlier

/-- However many updates of one tenant's settings interleave: if each merges into what it
saves over, nothing is lost. -/
theorem settings_merged_in_turn (calls : ι → SettingsCall)
    (one : ∀ i, uuidIn (calls i).tenantId = some tenant) {settings : TenantSetting}
    (stored : settingsOf tenant w.db = some settings)
    (c : Pool World Err Label ι (Except Err TenantSetting))
    (run : Pool.Reach dbFault (MergesCurrent calls tenant)
      ((settingsPool calls w).noted (noteRead tenant) fun _ => none)
      (c.noted (noteRead tenant) seen))
    (resolved : ∀ i, ∃ saved, c.progs i = .ret (.ok saved)) :
    MergedInTurn calls tenant settings.config c.state.db := by
  have owned : settings.tenantId = tenant := by simpa using Table.holds_of_find? stored
  have start : (settingsProtocol calls tenant settings.id settings.config).Holds
      (fun _ g r => ∀ saved, r = .ok saved → g = .counted)
      ((settingsPool calls w).noted (noteRead tenant) fun _ => none) :=
    ⟨fun _ => .reading, ⟨fun _ _ => rfl, by simp, settings, Table.mem_of_find? stored,
      rfl, owned, [],
      List.nodup_nil, by simp, Json.SameFields.refl _⟩, fun i => sim_program (one i)⟩
  obtain ⟨γ, inv, done⟩ := (Protocol.holds_reach start run).returned
  obtain ⟨-, -, row, mem, id, owner, order, nodup, counted, config⟩ := inv
  have all : ∀ i, i ∈ order := by
    intro i
    obtain ⟨saved, returned⟩ := resolved i
    have result : (c.noted (noteRead tenant) seen).progs i = .ret (.ok saved) := by
      change (c.progs i).noted (noteRead tenant i) = _
      rw [returned]
      rfl
    exact (counted i).mpr (done i _ result saved rfl)
  have shown : settingsOf tenant c.state.db = some row := settingsOf_eq mem owner
  refine ⟨⟨order, nodup, all, row, shown, config⟩, fun disjoint i key value set =>
    ⟨row, shown, ?_⟩⟩
  rw [config key]
  refine field?_mergedInOrder (all i) set fun j other => ?_
  exact disjoint i j other.symm key (by rw [set]; rfl)

end Pool

/-! ## Two updates -/

section Shop

open SampleShop

def setKey (i : Fin 2) : String := if i.val = 0 then "theme" else "currency"

def twoUpdates (i : Fin 2) : SettingsCall :=
  ⟨some context, uuidOut tenantId, ⟨.value (.obj [(setKey i, .str "new")])⟩⟩

def newSettings : TenantSetting := ⟨0x5e, tenantId, .emptyObject, 0, 0⟩

def settledShop : World := world { unstocked with tenantSettings := one newSettings }

def bothSaved {σ : Type} (c : Pool σ Err Label (Fin 2) (Except Err TenantSetting)) : Bool :=
  (Pool.results c).1.any (·.isOk) && (Pool.results c).2.any (·.isOk)

theorem saved_of_any {σ : Type} {p : Prog σ Err Label (Except Err TenantSetting)}
    (saved : (Pool.result? p).any (·.isOk) = true) : ∃ row, p = .ret (.ok row) := by
  cases returned : Pool.result? p with
  | none =>
      rw [returned] at saved
      cases saved
  | some r =>
      rw [returned] at saved
      cases r with
      | error e => cases saved
      | ok row => exact ⟨row, Pool.result?_eq_some.mp returned⟩

theorem saved_of_bothSaved {σ : Type} {c : Pool σ Err Label (Fin 2) (Except Err TenantSetting)}
    (both : bothSaved c = true) : ∀ i, ∃ saved, c.progs i = .ret (.ok saved) := by
  obtain ⟨first, second⟩ := Bool.and_eq_true_iff.mp both
  exact Fin.forall_fin_two.mpr ⟨saved_of_any first, saved_of_any second⟩

/-- A save finds what its call has read. -/
def savesAsRead (s : World × (Fin 2 → Option TenantSetting)) (i : Fin 2) : Label → Bool
  | .save _ _ => s.2 i == settingsOf tenantId s.1.db
  | _ => true

theorem mergesCurrent_of_savesAsRead (s : World × (Fin 2 → Option TenantSetting)) (i : Fin 2)
    (label : Label) (asRead : savesAsRead s i label = true) :
    MergesCurrent twoUpdates tenantId s i label := by
  cases label with
  | save entity loaded =>
      intro read stored seen shown
      have same : s.2 i = settingsOf tenantId s.1.db := beq_iff_eq.mp asRead
      rw [seen, shown] at same
      cases same
      exact .inl fun _ _ => rfl
  | _ => trivial

/-- The second update reads what the first has saved while that is being audited. -/
theorem settings_merged_in_turn_shop :
    ∃ (c : Pool World Err Label (Fin 2) (Except Err TenantSetting)) (seen : _), Pool.Reach dbFault
    (MergesCurrent twoUpdates tenantId)
      ((settingsPool twoUpdates settledShop).noted (noteRead tenantId) fun _ => none)
      (c.noted (noteRead tenantId) seen) ∧
    (∀ i, ∃ saved, c.progs i = .ret (.ok saved)) ∧
      MergedInTurn twoUpdates tenantId newSettings.config c.state.db := by
  have shown : (((settingsPool twoUpdates settledShop).noted (noteRead tenantId)
      fun _ => none).schedule savesAsRead [0, 0, 0, 1, 0, 1, 1, 1]).map bothSaved = some true := by
    decide
  obtain ⟨d, run, both⟩ := Pool.exists_of_schedule shown
  have reach : Pool.Reach dbFault (MergesCurrent twoUpdates tenantId)
      ((settingsPool twoUpdates settledShop).noted (noteRead tenantId) fun _ => none) d :=
    run.mono mergesCurrent_of_savesAsRead
  obtain ⟨c, seen, rfl, -⟩ := Pool.reach_of_noted reach
  have resolved : ∀ i, ∃ saved, c.progs i = .ret (.ok saved) := by
    intro i
    obtain ⟨saved, returned⟩ := saved_of_bothSaved both i
    exact ⟨saved, Prog.noted_eq_ret returned⟩
  exact ⟨c, seen, reach, resolved, settings_merged_in_turn twoUpdates
    (fun _ => uuidIn_uuidOut tenantId) rfl c reach resolved⟩

theorem key_of_set {i : Fin 2} {key : String}
    (set : ((twoUpdates i).changes.field? key).isSome) : setKey i = key := by
  by_contra other
  have absent : (twoUpdates i).changes.field? key = none := by
    change ((List.find? (fun f => f.1 == key) [(setKey i, Json.str "new")]).map Prod.snd) = none
    rw [List.find?_cons_of_neg (by simpa using other)]
    rfl
  rw [absent] at set
  cases set

/-- Both calls read before either of them saves, and the field of the first is lost. -/
theorem lost_update : ∃ c, Pool.Reach dbFault (fun _ _ _ => True)
    (settingsPool twoUpdates settledShop) c ∧ (∀ i, ∃ saved, c.progs i = .ret (.ok saved)) ∧
      ¬ MergedInTurn twoUpdates tenantId newSettings.config c.state.db := by
  have shown : ((settingsPool twoUpdates settledShop).schedule (fun _ _ _ => true)
      [0, 1, 0, 0, 1, 1, 0, 1]).map (fun c => (bothSaved c,
        (settingsOf tenantId c.state.db).bind (·.config.field? "theme"))) = some (true, none) := by
    decide
  obtain ⟨c, run, seen⟩ := Pool.exists_of_schedule shown
  obtain ⟨both, lost⟩ := Prod.mk.inj seen
  refine ⟨c, run.mono fun _ _ _ _ => trivial, saved_of_bothSaved both, fun merged => ?_⟩
  have apart : ∀ i j, i ≠ j → ∀ key, ((twoUpdates i).changes.field? key).isSome →
      (twoUpdates j).changes.field? key = none := by
    have names : ∀ i j : Fin 2, i ≠ j → setKey i ≠ setKey j := by decide
    intro i j other key set
    rw [← Option.not_isSome_iff_eq_none]
    exact fun set' => names i j other ((key_of_set set).trans (key_of_set set').symm)
  obtain ⟨settings, stored, kept⟩ := merged.disjoint apart 0 "theme" (.str "new") (by decide)
  rw [stored] at lost
  exact absurd (kept.symm.trans lost) (by simp)

end Shop

end TenantSettingService
end Tenantory
