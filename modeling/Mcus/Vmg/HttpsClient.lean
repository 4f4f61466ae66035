import Mcus.Foundations.CString
import Mcus.Foundations.Scanf

/-! # Downloads over HTTPS

`https_client.cpp` sends a request and appends to its response what each read leaves in a buffer, as a string
that ends in a zero. The connection is what its write returns and the reads it serves until one of them
returns nothing more.
-/

namespace Mcus.Vmg
open CString Scanf
set_option autoImplicit false

structure HttpsClient where
  hostname : List UInt8
  deriving DecidableEq

/-- What a read of `sizeof(buf) - 1` bytes may return. -/
structure Chunk where
  bytes : List UInt8
  nonempty : 1 ≤ bytes.length
  fits : bytes.length ≤ 4095

/-- The bytes read, and `buf[n] = '\\0'`. -/
def Chunk.readInto (chunk : Chunk) (buf : CharArray 4096) : CharArray 4096 :=
  ⟨chunk.bytes ++ 0 :: buf.bytes.drop (chunk.bytes.length + 1), by
    have hfits := chunk.fits
    rw [List.length_append, List.length_cons, List.length_drop, buf.length_eq]
    omega⟩

/-- The loop of both functions, over the reads that return something. -/
def readLoop (buf : CharArray 4096) (response : List UInt8) : List Chunk → List UInt8
  | [] => response
  | chunk :: chunks =>
    let buf := chunk.readInto buf
    readLoop buf (response ++ cString buf.bytes) chunks

namespace HttpsClient
variable (client : HttpsClient)

def getRequest (path : List UInt8) : List UInt8 :=
  literal "GET " ++ path ++ literal " HTTP/1.1\r\n" ++
    literal "Host: " ++ client.hostname ++ literal "\r\n" ++
    literal "User-Agent: VMG/1.0\r\n" ++
    literal "Connection: close\r\n" ++
    literal "\r\n"

def postRequest (path body contentType : List UInt8) : List UInt8 :=
  literal "POST " ++ path ++ literal " HTTP/1.1\r\n" ++
    literal "Host: " ++ client.hostname ++ literal "\r\n" ++
    literal "User-Agent: VMG/1.0\r\n" ++
    literal "Content-Type: " ++ contentType ++ literal "\r\n" ++
    literal "Content-Length: " ++ decimal body.length ++ literal "\r\n" ++
    literal "Connection: close\r\n" ++
    literal "\r\n" ++ body

variable (pqcClientWrite : List UInt8 → Int) (buf : CharArray 4096) (chunks : List Chunk)

/-- The error is the text of the exception; `buf` is what the buffer holds at first. -/
def exchange (request : List UInt8) : Except String (List UInt8) :=
  if pqcClientWrite request < 0 then .error "Failed to send request" else .ok (readLoop buf [] chunks)

def get (path : List UInt8) : Except String (List UInt8) :=
  exchange pqcClientWrite buf chunks (client.getRequest path)

def post (path body contentType : List UInt8) : Except String (List UInt8) :=
  exchange pqcClientWrite buf chunks (client.postRequest path body contentType)

end HttpsClient

/-- All bytes that were read. -/
def stream (chunks : List Chunk) : List UInt8 := chunks.flatMap (·.bytes)

/-! ## What is lost -/

section Loop
variable {buf : CharArray 4096} {chunks : List Chunk}

/-- What lay in the buffer before is behind the zero. -/
theorem cString_readInto (chunk : Chunk) (buf : CharArray 4096) :
    cString (chunk.readInto buf).bytes = cString chunk.bytes := by
  change cString (chunk.bytes ++ 0 :: _) = _
  exact cString_cut chunk.bytes _

theorem readLoop_eq (buf : CharArray 4096) (response : List UInt8) (chunks : List Chunk) :
    readLoop buf response chunks = response ++ chunks.flatMap fun chunk => cString chunk.bytes := by
  induction chunks generalizing buf response with
  | nil => exact (List.append_nil response).symm
  | cons chunk chunks ih =>
    rw [readLoop, ih, cString_readInto, List.flatMap_cons, List.append_assoc]

/-- A string that is cut short is shorter. -/
theorem flatMap_cString_length_le (chunks : List Chunk) :
    (chunks.flatMap fun chunk => cString chunk.bytes).length ≤ (stream chunks).length := by
  induction chunks with
  | nil => exact Nat.le_refl 0
  | cons chunk chunks ih =>
    rw [stream, List.flatMap_cons, List.flatMap_cons, List.length_append, List.length_append]
    exact Nat.add_le_add (cString_length_le chunk.bytes) ih

theorem flatMap_cString_eq_stream_iff (chunks : List Chunk) :
    (chunks.flatMap fun chunk => cString chunk.bytes) = stream chunks ↔ 0 ∉ stream chunks := by
  induction chunks with
  | nil => exact iff_of_true rfl List.not_mem_nil
  | cons chunk chunks ih =>
    have hcons : stream (chunk :: chunks) = chunk.bytes ++ stream chunks := List.flatMap_cons
    rw [hcons, List.flatMap_cons, List.mem_append, not_or, ← cString_eq_self_iff, ← ih]
    constructor
    · intro h
      have hfirst := cString_length_le chunk.bytes
      have hrest := flatMap_cString_length_le chunks
      have hlen := congrArg List.length h
      rw [List.length_append, List.length_append] at hlen
      -- neither part can be longer to make up for the other
      exact List.append_inj h (by omega)
    · rintro ⟨hchunk, hchunks⟩
      rw [hchunk, hchunks]

end Loop

section Fetch
variable {client : HttpsClient} {pqcClientWrite : List UInt8 → Int}

theorem exchange_eq_stream_iff {buf : CharArray 4096} {chunks : List Chunk} {request : List UInt8}
    (hwrite : 0 ≤ pqcClientWrite request) :
    HttpsClient.exchange pqcClientWrite buf chunks request = .ok (stream chunks) ↔ 0 ∉ stream chunks := by
  rw [HttpsClient.exchange, if_neg (Int.not_lt.mpr hwrite), Except.ok.injEq, readLoop_eq, List.nil_append]
  exact flatMap_cString_eq_stream_iff chunks

end Fetch

/-- **Downloads.** Once the request is sent, `get` and `post` return all bytes that were read, however they
were cut, exactly if there is no zero byte among them. -/
theorem https_fetch_iff {client : HttpsClient} {pqcClientWrite : List UInt8 → Int}
    {path body contentType : List UInt8} (hget : 0 ≤ pqcClientWrite (client.getRequest path))
    (hpost : 0 ≤ pqcClientWrite (client.postRequest path body contentType)) (buf : CharArray 4096)
    (chunks : List Chunk) :
    (client.get pqcClientWrite buf chunks path = .ok (stream chunks) ↔ 0 ∉ stream chunks) ∧
      (client.post pqcClientWrite buf chunks path body contentType = .ok (stream chunks) ↔ 0 ∉ stream chunks) :=
  ⟨exchange_eq_stream_iff hget, exchange_eq_stream_iff hpost⟩

def exampleClient : HttpsClient := ⟨literal "ota.example.com"⟩

/-- The start of a firmware image. -/
def imageChunk : Chunk := ⟨[0x7F, 0x00, 0x45], by decide, by decide⟩

theorem https_fetch_image :
    (exampleClient.get (fun _ => 1) (.zero 4096) [imageChunk] (literal "/firmware.bin") =
        .ok (stream [imageChunk]) ↔ 0 ∉ stream [imageChunk]) ∧
      (exampleClient.post (fun _ => 1) (.zero 4096) [imageChunk] (literal "/firmware.bin") [] [] =
        .ok (stream [imageChunk]) ↔ 0 ∉ stream [imageChunk]) :=
  https_fetch_iff (by decide) (by decide) _ _

/-- What follows a zero byte is not returned. -/
theorem https_fetch_stops_at_zero : ¬ ∀ (client : HttpsClient) (pqcClientWrite : List UInt8 → Int) path body
    contentType buf chunks, (∀ request, 0 ≤ pqcClientWrite request) →
      client.get pqcClientWrite buf chunks path = .ok (stream chunks) ∧
        client.post pqcClientWrite buf chunks path body contentType = .ok (stream chunks) := by
  intro hall
  have hget := (hall exampleClient (fun _ => 1) [] [] [] (.zero 4096) [imageChunk] fun _ => by decide).1
  exact absurd ((exchange_eq_stream_iff (by decide)).mp hget) (by decide)

end Mcus.Vmg
