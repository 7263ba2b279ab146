import Mathlib.Logic.Relation
import Tenantory.FailingCalls
import Tenantory.MediaService
import Tenantory.SampleShop
import Tenantory.SerialRuns
import Tenantory.StoredRows

/-! The bucket and the table of media files, over runs of uploads, of presigned URLs and of
the puts that clients make through these. The two stores are written in separate steps. -/

namespace Tenantory

open Stored UuidText

namespace MediaService

/-! ## Keys -/

theorem toList_uniqueKey (u : Uuid) (tenantId fileName : String) :
    (uniqueKey u tenantId fileName).toList =
      (uuidOut u).toList ++ ('-' :: (tenantId.toList ++ '/' :: (extname fileName).toList)) := by
  simp [uniqueKey, toString]

theorem length_uniqueKey (u : Uuid) (tenantId fileName : String) :
    (uniqueKey u tenantId fileName).length = 38 + tenantId.length + (extname fileName).length := by
  rw [← String.length_toList, toList_uniqueKey, List.length_append, length_uuidOut]
  simp only [List.length_append, List.length_cons, String.length_toList]
  omega

theorem uniqueKey_inj {u v : Uuid} {tenantId tenantId' fileName fileName' : String}
    (h : uniqueKey u tenantId fileName = uniqueKey v tenantId' fileName') : u = v := by
  have lists := congrArg String.toList h
  rw [toList_uniqueKey, toList_uniqueKey] at lists
  have heads := List.append_inj_left lists (by rw [length_uuidOut, length_uuidOut])
  exact uuidOut_injective (String.toList_inj.mp heads)

/-! ## Outcomes of the calls -/

variable {fails : FailurePoint → Option Err} {s : MediaStore}

theorem runFailing_call {β : Type} (fails : Option FailurePoint → Option Err)
    (point : Option FailurePoint) (act : MediaStore → Except Err β × MediaStore)
    (s : MediaStore) :
    (call point act).run.runFailing fails s = match fails point with
      | some e => (.error e, s)
      | none => act s := by
  refine (Prog.runFailing_throwing fails s ⟨point, fun _ => true, act⟩).trans ?_
  dsimp only
  cases fails point <;> rfl

/-- A key has been generated. -/
def issue (s : MediaStore) (tenantId fileName : String) : MediaStore :=
  { s with
    uuids := fun n => s.uuids (n + 1)
    issued := (uniqueKey (s.uuids 0) tenantId fileName, tenantId) :: s.issued }

theorem uploadFile_cases (tenantId : String) (file : UploadedFile)
    (fails : FailurePoint → Option Err) (s : MediaStore) :
    let key := uniqueKey (s.uuids 0) tenantId file.originalname
    let out := (uploadFile tenantId file).run.runFailing (fun point => point.bind fails) s
    let put := (issue s tenantId file.originalname).put key ⟨file.buffer, file.mimetype⟩
    fails .putObject ≠ none ∧ out.2 = issue s tenantId file.originalname ∨
      fails .putObject = none ∧ (out.2 = put ∧
        (fails .insert = none → ∃ e, insert tenantId key file s.world = .error e) ∨
        fails .insert = none ∧ ∃ asset w, insert tenantId key file s.world = .ok (asset, w) ∧
          out.2 = { put with world := w }) := by
  intro key out put
  have unfolded : out = (uploadFile tenantId file).run.runFailing
    (fun point => point.bind fails) s :=
    rfl
  unfold uploadFile generateUniqueKey at unfolded
  simp only [Prog.runFailing_run_bind, Prog.runFailing_run_tryCatch, runFailing_call,
    Option.bind_none, Option.bind_some] at unfolded
  cases puts : fails .putObject with
  | some e =>
      refine .inl ⟨by simp, ?_⟩
      rw [unfolded, puts]
      rfl
  | none =>
      rw [puts] at unfolded
      refine .inr ⟨rfl, ?_⟩
      cases inserts : fails .insert with
      | some e =>
          refine .inl ⟨?_, fun h => by cases h⟩
          rw [unfolded, inserts]
          rfl
      | none =>
          rw [inserts] at unfolded
          dsimp only at unfolded
          cases made : insert tenantId key file s.world with
          | error e =>
              refine .inl ⟨?_, fun _ => ⟨e, rfl⟩⟩
              rw [unfolded]
              erw [made]
              rfl
          | ok answer =>
              refine .inr ⟨rfl, answer.1, answer.2, rfl, ?_⟩
              rw [unfolded]
              erw [made]
              rfl

theorem generatePresignedURL_cases (tenantId fileName contentType : String)
    (fails : FailurePoint → Option Err) (s : MediaStore) :
    let out := (generatePresignedURL tenantId fileName contentType).run.runFailing
      (fun point => point.bind fails) s
    out.2 = issue s tenantId fileName ∨
      ∃ urls, out.2 = { issue s tenantId fileName with presigned := urls } := by
  intro out
  have unfolded : out = (generatePresignedURL tenantId fileName contentType).run.runFailing
    (fun point => point.bind fails) s := rfl
  unfold generatePresignedURL generateUniqueKey at unfolded
  simp only [Prog.runFailing_run_bind, runFailing_call, Option.bind_none, Option.bind_some]
    at unfolded
  cases presigns : fails .presign with
  | some e =>
      rw [unfolded, presigns]
      exact .inl rfl
  | none =>
      rw [unfolded, presigns]
      exact .inr ⟨_, rfl⟩

end MediaService

/-! ## Runs -/

inductive MediaOp
  | uploadFile (tenantId : String) (file : MediaService.UploadedFile)
      (fails : MediaService.FailurePoint → Option Err)
  | generatePresignedURL (tenantId fileName contentType : String)
      (fails : MediaService.FailurePoint → Option Err)
  /-- a client's PUT through a presigned URL, which the bucket refuses without one -/
  | clientPut (key contentType : String) (body : List UInt8)

namespace MediaStore

/-- Time has gone on. -/
def arrive (s : MediaStore) (now : Timestamp) : MediaStore :=
  { s with world := { s.world with clock := now } }

end MediaStore

def MediaOp.act (s : MediaStore) : MediaOp → MediaStore
  | uploadFile tenantId file fails =>
      ((MediaService.uploadFile tenantId file).run.runFailing (fun point => point.bind fails) s).2
  | generatePresignedURL tenantId fileName contentType fails =>
      ((MediaService.generatePresignedURL tenantId fileName contentType).run.runFailing
        (fun point => point.bind fails) s).2
  | clientPut key contentType body =>
      if .putObject key contentType 3600 ∈ s.presigned then
        s.put key ⟨body, contentType⟩ else s

namespace MediaStore

/-- The key was generated for the tenant of the text. -/
def IssuedFor (s : MediaStore) (key tenantId : String) : Prop := (key, tenantId) ∈ s.issued

/-- Bucket and table agree, and only the tenant of an object is given an URL for it. -/
structure Agrees (s : MediaStore) : Prop where
  recorded : ∀ entry ∈ s.bucket, ∀ tenantId, s.IssuedFor entry.1 tenantId →
    ∃ asset ∈ s.world.db.mediaAssets, uuidIn tenantId = some asset.tenantId ∧
      asset.fileName = entry.1
  resolves : ∀ entry ∈ s.bucket, ∀ tenantId, s.IssuedFor entry.1 tenantId →
    ((MediaService.getSignedURL tenantId entry.1).runs s.world).1 = .ok (.getObject entry.1 3600)
  denied : ∀ entry ∈ s.bucket, ∀ tenantId, s.IssuedFor entry.1 tenantId →
    ∀ other, uuidIn other ≠ uuidIn tenantId → ∀ url,
      ((MediaService.getSignedURL other entry.1).runs s.world).1 ≠ .ok url
  stored : ∀ asset ∈ s.world.db.mediaAssets, ∃ entry ∈ s.bucket, entry.1 = asset.fileName

/-- The identifiers that are generated next are not in use. -/
structure Fresh (s : MediaStore) : Prop where
  key : ∀ issue ∈ s.issued, ∀ tenantId fileName,
    issue.1 ≠ MediaService.uniqueKey (s.uuids 0) tenantId fileName
  id : ∀ asset ∈ s.world.db.mediaAssets, asset.id ≠ s.world.ids 0

/-- The keys in use were generated, each for one tenant. -/
structure Orderly (s : MediaStore) : Prop where
  once : ∀ a ∈ s.issued, ∀ b ∈ s.issued, a.1 = b.1 → a.2 = b.2
  bucket : ∀ entry ∈ s.bucket, ∃ tenantId, s.IssuedFor entry.1 tenantId
  table : ∀ asset ∈ s.world.db.mediaAssets, ∃ tenantId,
    s.IssuedFor asset.fileName tenantId ∧
    uuidIn tenantId = some asset.tenantId

/-- One call or put that meets the condition. -/
def Step (meets : MediaOp → MediaStore → Prop) (s s' : MediaStore) : Prop :=
  ∃ op now, s.Fresh ∧ meets op s ∧ s' = op.act (s.arrive now)

end MediaStore

namespace MediaService

/-- The row of an upload fits its columns and names a stored tenant. -/
def RowAccepted (tenantId : String) (file : UploadedFile) (db : Database) : Prop :=
  (∃ tenant, uuidIn tenantId = some tenant ∧ hasTenant db tenant = true) ∧
    file.originalname.length ≤ 255 ∧ file.mimetype.length ≤ 100 ∧ file.size < 2 ^ 63 ∧
    38 + tenantId.length + (extname file.originalname).length ≤ 255

end MediaService

/-- An object that an upload has put gets its row, and no client puts one. -/
def MediaOp.KeepsAgreement (op : MediaOp) (s : MediaStore) : Prop :=
  match op with
  | uploadFile tenantId file fails => fails .putObject = none →
      fails .insert = none ∧ MediaService.RowAccepted tenantId file s.world.db
  | generatePresignedURL _ _ _ _ => True
  | clientPut key contentType _ => .putObject key contentType 3600 ∉ s.presigned

/-! ## What one call keeps -/

namespace MediaService

theorem insert_of {tenantId : String} {file : UploadedFile} {u : Uuid} {w : World}
    (accepted : RowAccepted tenantId file w.db)
    (fresh : ∀ asset ∈ w.db.mediaAssets, asset.id ≠ w.ids 0) :
    ∃ asset w', insert tenantId (uniqueKey u tenantId file.originalname) file w =
      .ok (asset, w') := by
  obtain ⟨⟨tenant, owner, known⟩, original, mime, size, name⟩ := accepted
  have key : (uniqueKey u tenantId file.originalname).length ≤ 255 := by
    rw [length_uniqueKey]
    exact name
  have fits : misfit (newAsset tenant (uniqueKey u tenantId file.originalname) file (w.ids 0)
      w.clock) = none := by
    have url : (toString "minio://tenantory-media/").length +
        (toString (uniqueKey u tenantId file.originalname)).length ≤ 2048 := by
      change 24 + (uniqueKey u tenantId file.originalname).length ≤ 2048
      omega
    simp only [misfit, newAsset, firstError, Stored.fits, key, original, mime, size,
      String.length_append, url]
    rfl
  have keys : dangling w.db (newAsset tenant (uniqueKey u tenantId file.originalname) file
      (w.ids 0) w.clock) = false := by
    simpa [dangling, newAsset] using known
  obtain ⟨asset, w', inserted⟩ := (World.insert_iff (w := w) (newAsset tenant
    (uniqueKey u tenantId file.originalname) file)).mpr ⟨fits, keys, fun a ha => by
      simpa [Constrained.conflict, newAsset] using (fresh a ha).symm⟩
  exact ⟨asset, w', bind_eq_ok.mpr ⟨tenant, uuidParam_eq_ok.mpr owner, inserted⟩⟩

theorem insert_ok {tenantId key : String} {file : UploadedFile} {w w' : World} {asset : MediaAsset}
    (h : insert tenantId key file w = .ok (asset, w')) :
    ∃ tenant, uuidIn tenantId = some tenant ∧ asset =
      newAsset tenant key file (w.ids 0) w.clock ∧
      ∃ t : Table MediaAsset, t.rows = w.db.mediaAssets.rows ++ [asset] ∧
        w' = { w with db := { w.db with mediaAssets := t }, ids := fun n => w.ids (n + 1) } := by
  obtain ⟨tenant, owner, inserted⟩ := bind_eq_ok.mp h
  obtain ⟨built, -, -, t, rows, rfl⟩ := World.insert_ok inserted
  exact ⟨tenant, uuidParam_eq_ok.mp owner, built, t, rows, rfl⟩

theorem runs_getSignedURL (tenantId key : String) (w : World) :
    ((getSignedURL tenantId key).runs w).1 = match readByKey tenantId key w with
      | .ok (some _) => .ok (.getObject key 3600)
      | .ok none => .error assetNotFound
      | .error e => .error e := by
  unfold getSignedURL
  rw [Svc.runs_bind, Svc.runs_query]
  cases readByKey tenantId key w with
  | error e => rfl
  | ok found => cases found <;> rfl

end MediaService

namespace MediaStore

open MediaService

variable {s : MediaStore} {tenantId fileName : String}

theorem Orderly.issue (orderly : s.Orderly) (fresh : s.Fresh) :
    (MediaService.issue s tenantId fileName).Orderly where
  once := by
    intro a ha b hb same
    rcases List.mem_cons.mp ha with rfl | ha
    · rcases List.mem_cons.mp hb with rfl | hb
      · rfl
      · exact absurd same.symm (fresh.key b hb tenantId fileName)
    · rcases List.mem_cons.mp hb with rfl | hb
      · exact absurd same (fresh.key a ha tenantId fileName)
      · exact orderly.once a ha b hb same
  bucket := fun entry mem => (orderly.bucket entry mem).imp fun _ h => List.mem_cons_of_mem _ h
  table := fun asset mem => (orderly.table asset mem).imp fun _ h =>
    ⟨List.mem_cons_of_mem _ h.1, h.2⟩

/-- A key that is in use was generated before the next one. -/
theorem Orderly.issued_before (orderly : s.Orderly) (fresh : s.Fresh)
    {entry : String × StoredFile} (mem : entry ∈ s.bucket) {text : String}
    (issued : (MediaService.issue s tenantId fileName).IssuedFor entry.1 text) :
    s.IssuedFor entry.1 text := by
  obtain ⟨before, there⟩ := orderly.bucket entry mem
  rcases List.mem_cons.mp issued with new | old
  · exact absurd (congrArg Prod.fst new) (fresh.key _ there tenantId fileName)
  · exact old

/-- What an object's tenant is told follows from the row about it. -/
theorem Orderly.agrees (orderly : s.Orderly)
    (recorded : ∀ entry ∈ s.bucket, ∀ tenantId, s.IssuedFor entry.1 tenantId →
      ∃ asset ∈ s.world.db.mediaAssets, uuidIn tenantId = some asset.tenantId ∧
        asset.fileName = entry.1)
    (stored : ∀ asset ∈ s.world.db.mediaAssets, ∃ entry ∈ s.bucket,
      entry.1 = asset.fileName) :
    s.Agrees where
  recorded := recorded
  resolves := by
    intro entry mem tenantId issued
    obtain ⟨asset, there, owner, named⟩ := recorded entry mem tenantId issued
    have found : readByKey tenantId entry.1 s.world = .ok (s.world.db.mediaAssets.find? fun a =>
        a.tenantId == asset.tenantId && a.fileName == entry.1) := by
      unfold readByKey
      rw [uuidParam_eq_ok.mpr owner]
      rfl
    rw [runs_getSignedURL, found]
    cases hf : s.world.db.mediaAssets.find? fun a =>
        a.tenantId == asset.tenantId && a.fileName == entry.1 with
    | some a => rfl
    | none =>
        have absent := Table.find?_eq_none.mp hf asset there
        simp [named] at absent
  denied := by
    intro entry mem tenantId issued other apart url answered
    rw [runs_getSignedURL] at answered
    unfold readByKey at answered
    cases named : uuidIn other with
    | none =>
      rw [uuidParam, named] at answered
      cases answered
    | some tenant =>
        rw [uuidParam_eq_ok.mpr named] at answered
        cases hf : s.world.db.mediaAssets.find? fun a =>
            a.tenantId == tenant && a.fileName == entry.1 with
        | none =>
            change (match (.ok (s.world.db.mediaAssets.find? _) : Except Err _) with
              | .ok (some _) => (.ok (.getObject entry.1 3600) : Except Err SignedUrl)
              | .ok none => .error assetNotFound
              | .error e => .error e) = .ok url at answered
            rw [hf] at answered
            cases answered
        | some asset =>
            have there := Table.mem_of_find? hf
            have passes := Table.holds_of_find? hf
            simp only [Bool.and_eq_true, beq_iff_eq] at passes
            obtain ⟨text, generated, owner⟩ := orderly.table asset there
            have same : text = tenantId := orderly.once _ generated _ issued passes.2
            exact apart (named.trans (by rw [← same, owner, passes.1]))
  stored := stored

theorem Agrees.issue (agrees : s.Agrees) (orderly : s.Orderly) (fresh : s.Fresh) :
    (MediaService.issue s tenantId fileName).Agrees :=
  (orderly.issue fresh).agrees (fun entry mem _ issued =>
    agrees.recorded entry mem _ (orderly.issued_before fresh mem issued)) agrees.stored

/-- The object of an upload and the row about it. -/
theorem uploaded_agrees {file : UploadedFile} {asset : MediaAsset} {w : World}
    (orderly : s.Orderly) (agrees : s.Agrees) (fresh : s.Fresh)
    (inserted : insert tenantId (uniqueKey (s.uuids 0) tenantId file.originalname) file s.world =
      .ok (asset, w)) :
    let s' := { (MediaService.issue s tenantId file.originalname).put
      (uniqueKey (s.uuids 0) tenantId file.originalname) ⟨file.buffer, file.mimetype⟩ with
      world := w }
    s'.Orderly ∧ s'.Agrees := by
  intro s'
  obtain ⟨tenant, owner, built, t, rows, changed⟩ := insert_ok inserted
  have orderly₁ : (MediaService.issue s tenantId file.originalname).Orderly := orderly.issue fresh
  have unused : ∀ entry ∈ s.bucket,
      (entry.1 != uniqueKey (s.uuids 0) tenantId file.originalname) = true := fun entry mem => by
    obtain ⟨text, generated⟩ := orderly.bucket entry mem
    exact bne_iff_ne.mpr (fresh.key _ generated tenantId file.originalname)
  have objects : s'.bucket =
      (uniqueKey (s.uuids 0) tenantId file.originalname, ⟨file.buffer, file.mimetype⟩) ::
        s.bucket := congrArg (List.cons _) (List.filter_eq_self.mpr unused)
  have assets : ∀ a, a ∈ s'.world.db.mediaAssets ↔
    a ∈ s.world.db.mediaAssets ∨ a = asset := by
    intro a
    change a ∈ w.db.mediaAssets.rows ↔ _
    rw [changed]
    change a ∈ t.rows ↔ _
    rw [rows, List.mem_append, List.mem_singleton]
    rfl
  have orderly' : s'.Orderly := {
    once := orderly₁.once
    bucket := by
      intro entry mem
      rw [objects] at mem
      rcases List.mem_cons.mp mem with rfl | old
      · exact ⟨tenantId, List.mem_cons_self⟩
      · exact orderly₁.bucket entry old
    table := by
      intro a mem
      rcases (assets a).mp mem with old | rfl
      · exact orderly₁.table a old
      · rw [built]
        exact ⟨tenantId, List.mem_cons_self, owner⟩ }
  refine ⟨orderly', orderly'.agrees ?_ ?_⟩
  · intro entry mem text issued
    rw [objects] at mem
    rcases List.mem_cons.mp mem with rfl | old
    · have same : tenantId = text := orderly₁.once _ List.mem_cons_self _ issued rfl
      refine ⟨asset, (assets asset).mpr (.inr rfl), ?_, by rw [built]; rfl⟩
      rw [← same, built]
      exact owner
    · obtain ⟨a, there, named⟩ :=
        agrees.recorded entry old text (orderly.issued_before fresh old issued)
      exact ⟨a, (assets a).mpr (.inl there), named⟩
  · intro a mem
    rw [objects]
    rcases (assets a).mp mem with old | rfl
    · obtain ⟨entry, there, named⟩ := agrees.stored a old
      exact ⟨entry, List.mem_cons_of_mem _ there, named⟩
    · exact ⟨_, List.mem_cons_self, by rw [built]; rfl⟩

/-! Neither the time nor the presigned URLs matter. -/

theorem Orderly.congr (orderly : s.Orderly) (now : Timestamp) (urls : List SignedUrl) :
    ({ s.arrive now with presigned := urls } : MediaStore).Orderly :=
  ⟨orderly.once, orderly.bucket, orderly.table⟩

theorem Agrees.congr (agrees : s.Agrees) (orderly : s.Orderly) (now : Timestamp)
    (urls : List SignedUrl) : ({ s.arrive now with presigned := urls } : MediaStore).Agrees :=
  (orderly.congr now urls).agrees agrees.recorded agrees.stored

end MediaStore

/-- What a call or a put keeps that meets the condition. -/
theorem MediaOp.act_agrees {op : MediaOp} {s : MediaStore} (keeps : op.KeepsAgreement s)
    (orderly : s.Orderly) (agrees : s.Agrees) (fresh : s.Fresh) :
    (op.act s).Orderly ∧ (op.act s).Agrees := by
  cases op with
  | uploadFile tenantId file fails =>
      simp only [act]
      rcases MediaService.uploadFile_cases tenantId file fails s with
        ⟨-, out⟩ | ⟨put, ⟨-, refused⟩ | ⟨-, asset, w, inserted, out⟩⟩
      · rw [out]
        exact ⟨orderly.issue fresh, agrees.issue orderly fresh⟩
      · obtain ⟨done, accepted⟩ := keeps put
        obtain ⟨e, failed⟩ := refused done
        obtain ⟨asset, w, inserted⟩ := MediaService.insert_of accepted fresh.id
        cases failed.symm.trans inserted
      · rw [out]
        exact MediaStore.uploaded_agrees orderly agrees fresh inserted
  | generatePresignedURL tenantId fileName contentType fails =>
      have orderly' : (MediaService.issue s tenantId fileName).Orderly := orderly.issue fresh
      have agrees' : (MediaService.issue s tenantId fileName).Agrees := agrees.issue orderly fresh
      simp only [act]
      rcases MediaService.generatePresignedURL_cases tenantId fileName contentType fails s with
        out | ⟨urls, out⟩
      · rw [out]
        exact ⟨orderly', agrees'⟩
      · rw [out]
        exact ⟨orderly'.congr s.world.clock urls, agrees'.congr orderly' s.world.clock urls⟩
  | clientPut key contentType body =>
      simp only [act]
      rw [if_neg keeps]
      exact ⟨orderly, agrees⟩

/-! ## Runs of calls and puts -/

namespace MediaStore

/-- In every run in which each stored object gets its row, bucket and table agree. -/
theorem bucket_agrees_with_table {start s : MediaStore} (orderly : start.Orderly)
    (agrees : start.Agrees) (run : Relation.ReflTransGen (Step MediaOp.KeepsAgreement) start s) :
    s.Agrees := by
  have both : s.Orderly ∧ s.Agrees := by
    induction run with
    | refl => exact ⟨orderly, agrees⟩
    | @tail before _ _ step ih =>
        obtain ⟨op, now, fresh, keeps, rfl⟩ := step
        refine MediaOp.act_agrees ?_ (ih.1.congr now before.presigned)
          (ih.2.congr ih.1 now before.presigned) ⟨fresh.key, fresh.id⟩
        cases op <;> exact keeps
  exact both.2

/-! An upload and a presigned URL that is not used yet. -/

/-- A shop that has no media. -/
def noMedia : MediaStore where
  world := SampleShop.world SampleShop.unstocked
  bucket := []
  uuids n := BitVec.ofNat 128 n
  issued := []
  presigned := []

def picture : MediaService.UploadedFile := ⟨"shirt.png", "image/png", 3, [1, 2, 3]⟩

def noFailure : MediaService.FailurePoint → Option Err := fun _ => none

def uploading : MediaOp := .uploadFile (uuidOut SampleShop.tenantId) picture noFailure

def presigning : MediaOp :=
  .generatePresignedURL (uuidOut SampleShop.tenantId) "shirt.png" "image/png" noFailure

theorem noMedia_orderly : noMedia.Orderly :=
  ⟨fun _ ha => (nomatch ha), fun _ mem => (nomatch mem), fun _ mem => (nomatch mem)⟩

theorem noMedia_agrees : noMedia.Agrees :=
  noMedia_orderly.agrees (fun _ mem => (nomatch mem)) fun _ mem => (nomatch mem)

theorem noMedia_fresh : noMedia.Fresh :=
  ⟨fun _ mem => (nomatch mem), fun _ mem => (nomatch mem)⟩

theorem uploading_keeps : uploading.KeepsAgreement noMedia := fun _ =>
  ⟨rfl, ⟨SampleShop.tenantId, uuidIn_uuidOut _, rfl⟩, by decide, by decide, by
    decide, by decide⟩

theorem bucket_agrees_with_table_uploaded :
    let s := presigning.act ((uploading.act (noMedia.arrive 5)).arrive 6)
    s.bucket.length = 1 ∧ s.presigned.length = 1 ∧ s.Agrees := by
  refine ⟨rfl, rfl, bucket_agrees_with_table noMedia_orderly noMedia_agrees
    ((Relation.ReflTransGen.single ⟨uploading, 5, noMedia_fresh, uploading_keeps, rfl⟩).tail
      ⟨presigning, 6, ⟨?_, ?_⟩, trivial, rfl⟩)⟩
  · intro issue mem tenantId fileName same
    obtain rfl : issue = _ := List.mem_singleton.mp mem
    exact absurd (MediaService.uniqueKey_inj same) (by decide)
  · intro asset mem
    obtain rfl : asset = _ := List.mem_singleton.mp mem
    change (BitVec.ofNat 128 1000 : Uuid) ≠ BitVec.ofNat 128 1001
    decide

/-- An object that a client puts through the URL it was given has no row. -/
theorem clientPut_unrecorded {s : MediaStore} {key contentType tenantId : String}
    (url : .putObject key contentType 3600 ∈ s.presigned) (issued : s.IssuedFor key tenantId)
    (absent : ∀ asset ∈ s.world.db.mediaAssets, asset.fileName ≠ key) (body : List UInt8) :
    ¬ ((MediaOp.clientPut key contentType body).act s).Agrees := by
  intro agrees
  have put : (MediaOp.clientPut key contentType body).act s = s.put key ⟨body, contentType⟩ :=
    if_pos url
  rw [put] at agrees
  obtain ⟨asset, mem, -, named⟩ := agrees.recorded _ List.mem_cons_self tenantId issued
  exact absent asset mem named

theorem presigned_object_unrecorded :
    ¬ ∀ start s : MediaStore, start.Orderly → start.Agrees →
      Relation.ReflTransGen (Step fun _ _ => True) start s → s.Agrees := by
  intro all
  have fresh : (presigning.act (noMedia.arrive 5)).Fresh := by
    refine ⟨fun issue mem tenantId fileName same => ?_, fun _ mem => (nomatch mem)⟩
    obtain rfl : issue = _ := List.mem_singleton.mp mem
    exact absurd (MediaService.uniqueKey_inj same) (by decide)
  refine clientPut_unrecorded (s := (presigning.act (noMedia.arrive 5)).arrive 6)
    List.mem_cons_self List.mem_cons_self (fun _ mem => (nomatch mem)) [1, 2, 3] ?_
  exact all _ _ noMedia_orderly noMedia_agrees
    ((Relation.ReflTransGen.single ⟨presigning, 5, noMedia_fresh, trivial, rfl⟩).tail
      ⟨_, 6, fresh, trivial, rfl⟩)

end MediaStore

end Tenantory
