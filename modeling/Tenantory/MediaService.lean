import Tenantory.TableStatements

/-! Media files: the object goes to a bucket, a row about it into the database. A client
may also put an object itself, through a presigned URL. -/

namespace Tenantory

/-! ## The bucket -/

structure StoredFile where
  body : List UInt8
  contentType : String
  deriving DecidableEq

/-- What a presigned URL allows until it expires. -/
inductive SignedUrl
  | getObject (key : String) (expiresIn : ℕ)
  | putObject (key contentType : String) (expiresIn : ℕ)
  deriving DecidableEq

structure MediaStore where
  world : World
  bucket : List (String × StoredFile)
  /-- what `crypto.randomUUID()` is still to return -/
  uuids : ℕ → Uuid
  /-- the keys that have been generated, each with the tenant id it was generated for -/
  issued : List (String × String)
  /-- the presigned URLs that clients have been given -/
  presigned : List SignedUrl

namespace MediaStore

/-- An object under the key takes the place of the one that was there. -/
def put (s : MediaStore) (key : String) (file : StoredFile) : MediaStore :=
  { s with bucket := (key, file) :: s.bucket.filter (·.1 != key) }

end MediaStore

/-- The extension of the last part of a path, with its dot. -/
def extname (path : String) : String :=
  let base := (path.toList.reverse.dropWhile (· == '/')).takeWhile (· != '/')
  let ext := base.takeWhile (· != '.')
  match base.drop ext.length with
  | [] => ""
  | _ :: before =>
      if before = [] ∨ base = ['.', '.'] then "" else String.ofList ('.' :: ext.reverse)

example : extname "photos/summer.tar.gz/" = ".gz" ∧ extname ".profile" = "" ∧
    extname ".." = "" := by
  decide

namespace MediaService

/-- A file as the upload middleware hands it over. -/
structure UploadedFile where
  originalname : String
  mimetype : String
  size : ℕ
  buffer : List UInt8

/-! ## Programs -/

/-- The calls of other systems that may fail. -/
inductive FailurePoint
  | putObject | insert | presign
  deriving DecidableEq

abbrev Media := ExceptT Err (Prog MediaStore Err (Option FailurePoint))

def call {β : Type} (point : Option FailurePoint)
    (act : MediaStore → Except Err β × MediaStore) : Media β :=
  ExceptT.mk (Prog.atom { label := point, ready := fun _ => true, act } Prog.ret)

def uniqueKey (uuid : Uuid) (tenantId fileName : String) : String :=
  s!"{UuidText.uuidOut uuid}-{tenantId}/{extname fileName}"

def generateUniqueKey (tenantId fileName : String) : Media String :=
  call none fun s =>
    let key := uniqueKey (s.uuids 0) tenantId fileName
    (.ok key, { s with uuids := fun n => s.uuids (n + 1), issued := (key, tenantId) :: s.issued })

def includes (text part : String) : Bool := decide (part.toList <:+: text.toList)

def documentTypes : List String :=
  ["pdf", "doc", "docx", "xls", "xlsx", "ppt", "pptx", "txt", "rtf"]

def getMediaTypeFromMimeType (mimeType : String) : MediaType :=
  if mimeType.startsWith "image/" then .image
  else if mimeType.startsWith "video/" then .video
  else if mimeType.startsWith "audio/" then .audio
  else if mimeType.startsWith "application/" ∧ documentTypes.any (includes mimeType) = true then
    .document
  else .other

/-- The row that an upload saves. -/
def newAsset (tenant : Uuid) (key : String) (file : UploadedFile) (id : Uuid) (now : Timestamp) :
    MediaAsset :=
  { id, tenantId := tenant, fileName := key, originalFileName := file.originalname,
    mimeType := file.mimetype, sizeBytes := file.size, url := s!"minio://tenantory-media/{key}",
    mediaType := getMediaTypeFromMimeType file.mimetype, createdAt := now, updatedAt := now }

def insert (tenantId key : String) (file : UploadedFile) (w : World) :
    Except Err (MediaAsset × World) := do
  let tenant ← uuidParam tenantId
  w.insert (newAsset tenant key file)

def putFailed : Err := .internalServerError "Failed to upload file to S3"

/-! ## The service -/

def uploadFile (tenantId : String) (file : UploadedFile) : Media MediaAsset := do
  let key ← generateUniqueKey tenantId file.originalname
  tryCatch
    (call (some .putObject) fun s => (.ok (), s.put key ⟨file.buffer, file.mimetype⟩))
    fun _ => throw putFailed
  call (some .insert) fun s =>
    match insert tenantId key file s.world with
    | .ok (asset, w) => (.ok asset, { s with world := w })
    | .error err => (.error err, s)

def readByKey (tenantId key : String) (w : World) : Except Err (Option MediaAsset) := do
  let tenant ← uuidParam tenantId
  pure (w.db.mediaAssets.find? fun a => a.tenantId == tenant && a.fileName == key)

def assetNotFound : Err := .notFound "Media asset not found or access denied."

def getSignedURL (tenantId key : String) : Svc SignedUrl := do
  match ← query (readByKey tenantId key) with
  | none => throw assetNotFound
  | some _ => pure (.getObject key 3600)

def generatePresignedURL (tenantId fileName contentType : String) :
    Media (SignedUrl × String) := do
  let key ← generateUniqueKey tenantId fileName
  let url := SignedUrl.putObject key contentType 3600
  call (some .presign) fun s => (.ok (), { s with presigned := url :: s.presigned })
  pure (url, key)

end MediaService
end Tenantory
