import ClusterMatrix.Compress.Container
import ClusterMatrix.Http.Message
import ClusterMatrix.Text.Lower
import ClusterMatrix.Text.Numeral
import ClusterMatrix.Text.Quoted

/-!
# Transfer of bodies

The headers of a response say how its body was encoded for the way and how many bytes were sent. The encodings are
undone from the last to the first. Only then the number of bytes is checked.
-/

namespace ClusterMatrix.Http

/-- At most so many encodings are undone. -/
def maxEncodings : Nat := 5

/-- Why a body cannot be read. -/
inductive BodyFault where
  | damaged (encoding : List Char) (f : Compress.Fault)
  | tooManyEncodings (count : Nat)
  /-- So many bytes were read, and so many more were announced. -/
  | wrongLength (read : Nat) (missing : Int)
deriving DecidableEq, Repr

namespace BodyFault

def reason : Compress.Fault → String
  | .headerCheck => "incorrect header check"
  | .method => "unknown compression method"
  | .windowSize => "invalid window size"
  | .dictionary => "need dictionary"
  | .headerFlags => "unknown header flags set"
  | .headerSum => "header crc mismatch"
  | .blockType => "invalid block type"
  | .storedLengths => "invalid stored block lengths"
  | .tooManySymbols => "too many length or distance symbols"
  | .lengthCodes => "invalid code lengths set"
  | .lengthRepeat => "invalid bit length repeat"
  | .noBlockEnd => "invalid code -- missing end-of-block"
  | .literalCodes => "invalid literal/lengths set"
  | .distanceCodes => "invalid distances set"
  | .literalCode => "invalid literal/length code"
  | .distanceCode => "invalid distance code"
  | .distance => "invalid distance too far back"
  | .dataSum => "incorrect data check"
  | .dataLength => "incorrect length check"

def quoted (s : String) : String := String.ofList (Text.quoted s.toList)

/-- Two parts of a message in round brackets. -/
def pair (a b : String) : String := "(" ++ a ++ ", " ++ b ++ ")"

def message : BodyFault → String
  | .damaged encoding f =>
    pair (quoted ("Received response with content-encoding: " ++ String.ofList encoding ++
        ", but failed to decode it."))
      ("error(" ++ quoted (match f with
        | .dictionary => "Error 2 while decompressing data"
        | f => "Error -3 while decompressing data: " ++ reason f) ++ ")")
  | .tooManyEncodings count =>
    "Too many content encodings in the chain: " ++ toString count ++ " > " ++ toString maxEncodings
  | .wrongLength read missing =>
    let counts :=
      "IncompleteRead(" ++ toString read ++ " bytes read, " ++ toString missing ++ " more expected)"
    pair (quoted (if missing = -read then "Response may not contain content."
      else "Connection broken: " ++ counts)) counts

end BodyFault

/-- The encodings that can be undone. -/
def knownEncodings : List (List Char) := ["gzip".toList, "x-gzip".toList, "deflate".toList]

/-- The bytes of `gzip` containers that follow each other. What follows the first one is left out if it is
damaged. The first number bounds the containers. -/
def gzipBytes : (bound : Nat) → (first : Bool) → List UInt8 → Except Compress.Fault (List UInt8)
  | 0, _, _ => .ok []
  | n + 1, first, bytes =>
    let unpacked := Compress.Container.gzip.unpack bytes
    match unpacked.ending with
    | .ok [] => .ok unpacked.output.toList
    | .ok (b :: rest) => (gzipBytes n false (b :: rest)).map (unpacked.output.toList ++ ·)
    | .error .short => .ok unpacked.output.toList
    | .error (.bad f) => if first then .error f else .ok []

/-- So many bytes are handed on at once. -/
def chunkSize : Nat := 10240

/-- Deflated bytes, in a `zlib` container or without one. There is a container if the first bytes come out of
it. -/
def deflatedBytes (bytes : List UInt8) : Except Compress.Fault (List UInt8) :=
  let unpacked := Compress.Container.zlib.unpack bytes
  match unpacked.ending with
  | .error (.bad f) =>
    if chunkSize < unpacked.output.size then .error f
    else
      let bare := Compress.Container.bare.unpack bytes
      match bare.ending with
      | .error (.bad f) => .error f
      | _ => .ok bare.output.toList
  | _ => .ok unpacked.output.toList

/-- Undoes one encoding; any but `gzip` is taken for `deflate`. -/
def undo (encoding : List Char) (bytes : List UInt8) : Except Compress.Fault (List UInt8) :=
  if encoding = "gzip".toList ∨ encoding = "x-gzip".toList then gzipBytes (bytes.length + 1) true bytes
  else deflatedBytes bytes

/-- Undoes encodings that were applied one after the other. -/
def undoAll (bytes : List UInt8) : List (List Char) → Except Compress.Fault (List UInt8)
  | [] => .ok bytes
  | e :: es => match undoAll bytes es with
    | .error f => .error f
    | .ok bytes => undo e bytes

namespace Response

/-- The encodings of the body. A single unknown one does not count, nor do several unknown ones. -/
def encodings (value : List Char) : List (List Char) :=
  if knownEncodings.contains value then [value]
  else if value.contains ',' then
    let names := (Text.splitOn ',' value).map Text.trim
    if names.any knownEncodings.contains then names else []
  else []

/-- The body without its encodings. -/
def decoded (r : Response) : Except BodyFault (List UInt8) :=
  let value := Text.lower ((r.header? "Content-Encoding").getD "").toList
  let names := encodings value
  if maxEncodings < names.length then .error (.tooManyEncodings names.length)
  else match undoAll r.body names with
    | .ok bytes => .ok bytes
    | .error f => .error (.damaged value f)

/-- The body is sent in chunks, each with a length of its own. -/
def isChunked (r : Response) : Bool :=
  (Text.splitOn ',' (Text.lower ((r.header? "Transfer-Encoding").getD "").toList)).any
    fun e ↦ Text.trim e = "chunked".toList

/-- The lengths that are announced, without repetitions. There is none unless all are numbers. -/
def lengths (r : Response) : List Int :=
  match r.header? "Content-Length" with
  | none => []
  | some value =>
    if r.isChunked then []
    else ((Text.splitOn ',' value.toList).mapM Text.integer?).getD [] |>.eraseDups

/-- The number of bytes that the body should have, if there is one. -/
def length? (r : Response) : Option Int :=
  if r.status = 204 ∨ r.status = 304 ∨ (100 ≤ r.status ∧ r.status < 200) then some 0
  else r.lengths.head?.filter (0 ≤ ·)

/-- The body as it was before it was sent. -/
def content (r : Response) : Except BodyFault (List UInt8) :=
  match r.decoded with
  | .error f => .error f
  | .ok bytes => match r.length? with
    | none => .ok bytes
    | some n =>
      if n = r.body.length then .ok bytes else .error (.wrongLength r.body.length (n - r.body.length))

end Response

end ClusterMatrix.Http
