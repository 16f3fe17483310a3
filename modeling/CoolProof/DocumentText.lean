import CoolProof.Library.PythonText
import CoolProof.Library.Uuid

/-! From the bytes of an upload to the text of its chunks: the checks on an upload, its
object key, and the extraction of page-aware chunks. The text of a PDF is the reader's. -/

namespace CoolProof.Documents
open PythonText Uuid

abbrev Bytes := List UInt8

/-- `MAX_UPLOAD_BYTES` -/
def maxUploadBytes : Nat := 25 * 1024 * 1024

/-- `ALLOWED_CONTENT_TYPES` -/
def allowedContentTypes : List String := ["application/pdf", "text/plain", "text/markdown"]

/-- `b"%PDF-"` -/
def pdfMagic : Bytes := [0x25, 0x50, 0x44, 0x46, 0x2D]

def startsWithPdf (content : Bytes) : Bool := pdfMagic.isPrefixOf content

/-- `content.decode("utf-8")` -/
def decodeUtf8 (content : Bytes) : Option String := String.fromUTF8? ⟨content.toArray⟩

/-- `text.encode("utf-8")` -/
def encodeUtf8 (text : String) : Bytes := text.toUTF8.data.toList

theorem encodeUtf8_append (first second : String) :
    encodeUtf8 (first ++ second) = encodeUtf8 first ++ encodeUtf8 second := by
  simp [encodeUtf8]

theorem decodeUtf8_encodeUtf8 (text : String) : decodeUtf8 (encodeUtf8 text) = some text := by
  have bytes : (⟨(encodeUtf8 text).toArray⟩ : ByteArray) = text.toByteArray := by
    simp [encodeUtf8]
  rw [decodeUtf8, bytes, String.fromUTF8?, dif_pos text.isValidUTF8]
  rfl

/-! ## Extraction -/

/-- The default of `chunk_words`, at which every caller leaves it. -/
def chunkWords : Nat := 180

/-- A chunk before it is stored: its page and its text. -/
abbrev PageText := Option Int × String

/-- The chunks of one page of a PDF. -/
def pdfPageChunks (size pageNumber : Nat) (pageText : String) : List PageText :=
  ((slices size (split pageText.toList)).filter fun words => !words.isEmpty).map
    fun words => (some (pageNumber : Int), String.ofList (spaced words))

/-- The chunks of one page of a text; blank ones are left out. -/
def pageChunks (size : Nat) (pageNumber : Option Int) (page : List Char) : List PageText :=
  ((slices size (split page)).map fun words => strip isBlank (spaced words)).filterMap
    fun value => if value.isEmpty then none else some (pageNumber, String.ofList value)

/-- The pages of a text with their numbers, which a text of one page does not have. -/
def textChunks (size : Nat) (text : List Char) : List PageText :=
  let pages := (unixLines text).splitOn '\x0c'
  pages.zipIdx.flatMap fun page =>
    pageChunks size (if 1 < pages.length then some ((page.2 + 1 : Nat) : Int) else none) page.1

/-- `extract_text_chunks` at a `chunk_words` that is positive, with what the PDF reader makes
of a content; `none` is any exception of the reader. -/
def extractTextChunksOf (size : Nat) (pdfPages : Bytes → Option (List String))
    (content : Bytes) : Except String (List PageText) :=
  if content.isEmpty then .ok []
  else if startsWithPdf content then
    match pdfPages content with
    | none => .error "PDF extraction failed"
    | some pages => .ok (pages.zipIdx.flatMap fun page => pdfPageChunks size (page.2 + 1) page.1)
  else if (content.take 8192).contains 0 then .error "binary document content is not supported"
  else match decodeUtf8 content with
    | none => .error "document must be valid UTF-8 text"
    | some text => .ok (textChunks size text.toList)

/-- `extract_text_chunks` as it is called. -/
def extractTextChunks (pdfPages : Bytes → Option (List String)) (content : Bytes) :
    Except String (List PageText) := extractTextChunksOf chunkWords pdfPages content

/-! ## Uploads -/

/-- The characters that `s3_object_key` keeps. -/
def isKeyCharacter (c : Char) : Bool :=
  ('A' ≤ c && c ≤ 'Z') || ('a' ≤ c && c ≤ 'z') || ('0' ≤ c && c ≤ '9') ||
    c == '.' || c == '_' || c == '-'

/-- `PurePosixPath(filename.replace("\\", "/")).name`: the last part of the path, empty and
dot parts left out. -/
def pathName (filename : String) : List Char :=
  let parts := (filename.toList.map fun c => if c = '\\' then '/' else c).splitOn '/'
  ((parts.filter fun part => !part.isEmpty && part != ['.']).getLast?).getD []

/-- The last component of `s3_object_key`. -/
def safeName (filename : String) : String :=
  let name := ((pathName filename).map fun c => if isKeyCharacter c then c else '_').take 180
  if name.isEmpty then "upload" else String.ofList name

/-- `s3_object_key` -/
def s3ObjectKey (organizationId documentId : UUID) (filename : String) : String :=
  "organizations/" ++ Uuid.toString organizationId ++ "/documents/" ++
    Uuid.toString documentId ++ "/" ++ safeName filename

structure SafeUpload where
  key : String
  sha256 : String
  contentType : String
deriving DecidableEq

/-- `prepare_upload` -/
def prepareUpload (sha256 : Bytes → String) (organizationId documentId : UUID)
    (filename : String) (content : Bytes) (contentType : String) : Except String SafeUpload :=
  if content.isEmpty then .error "document content cannot be empty"
  else if !allowedContentTypes.contains contentType then
    .error "unsupported document content type"
  else if maxUploadBytes < content.length then .error "document exceeds 25 MiB limit"
  else if contentType = "application/pdf" ∧ startsWithPdf content = false then
    .error "PDF magic bytes are invalid"
  else .ok ⟨s3ObjectKey organizationId documentId filename, sha256 content, contentType⟩

end CoolProof.Documents
