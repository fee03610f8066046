import HttpEngine.Body.Content
import HttpEngine.Body.Multipart
import HttpEngine.MediaType
import HttpEngine.Method

/-!
# Bounded body parsing

A parser is offered the chunks of a body and counts their bytes up to the
greatest word of 64 bits.  The chunk that takes the count beyond the limit, and
all after it, are counted but not kept, and what was kept before is dropped, so
that a handler never sees a part of a body.
-/

namespace HttpEngine

/-! ## Decoders -/

inductive BodyDecoder where
  | discard
  | raw (kept : Array UInt8)
  | urlEncoded (kept : Array UInt8)
  | multipart (decoder : Multipart.Decoder)
  deriving DecidableEq, Repr

namespace BodyDecoder

def decode (decoder : BodyDecoder) (chunk : Bytes) : BodyDecoder :=
  match decoder with
  | .discard => .discard
  | .raw kept => .raw (kept ++ chunk)
  | .urlEncoded kept => .urlEncoded (kept ++ chunk)
  | .multipart decoder => .multipart (decoder.decode chunk)

def release : BodyDecoder → BodyDecoder
  | .discard => .discard
  | .raw _ => .raw #[]
  | .urlEncoded _ => .urlEncoded #[]
  | .multipart decoder => .multipart decoder.release

def bodyOfForm : Except Multipart.Fault Form → Body
  | .ok form => .form form
  | .error fault => .malformed fault.message

def finish : BodyDecoder → Body × BodyDecoder
  | .discard => (.empty, .discard)
  | .raw kept => (.ofBytes kept.toList, .raw #[])
  | .urlEncoded kept => (.form (.ofUrlEncoded kept.toList), .urlEncoded #[])
  | .multipart decoder =>
      (bodyOfForm decoder.finish.1, .multipart decoder.finish.2)

end BodyDecoder

/-! ## Parsers -/

structure BodyParser where
  maxSize : Option Nat
  seen : Nat
  exceeded : Bool
  released : Bool
  decoder : BodyDecoder
  deriving DecidableEq, Repr

namespace BodyParser

/-- The count stops here. -/
def maxCount : Nat := 0xFFFFFFFFFFFFFFFF

def new (maxSize : Option Nat) (decoder : BodyDecoder) : BodyParser :=
  ⟨maxSize, 0, false, false, decoder⟩

/-- Drops every body. -/
def empty : BodyParser := new none .discard

def raw (maxSize : Option Nat) : BodyParser := new maxSize (.raw #[])

def urlEncoded (maxSize : Option Nat) : BodyParser :=
  new maxSize (.urlEncoded #[])

def multipart (maxSize : Option Nat) (boundary : Option String) : BodyParser :=
  new maxSize (.multipart (.new (boundary.map Utf8.ofString)))

/-- Frees what is kept; a second release does nothing. -/
def release (parser : BodyParser) : BodyParser :=
  if parser.released then parser
  else { parser with released := true, decoder := parser.decoder.release }

def countAfter (parser : BodyParser) (chunk : Bytes) : Nat :=
  min (parser.seen + chunk.length) maxCount

/-- The chunk takes the count beyond the limit. -/
def wouldExceed (parser : BodyParser) (chunk : Bytes) : Bool :=
  match parser.maxSize with
  | none => false
  | some limit => decide (limit < parser.countAfter chunk)

/-- Takes note of the limit before a chunk. -/
def checkLimit (parser : BodyParser) (chunk : Bytes) : BodyParser :=
  if !parser.exceeded && parser.wouldExceed chunk then
    { parser with exceeded := true }.release
  else parser

def offer (parser : BodyParser) (chunk : Bytes) : BodyParser :=
  let checked := parser.checkLimit chunk
  { checked with
    seen := parser.countAfter chunk
    decoder :=
      if checked.exceeded then checked.decoder
      else checked.decoder.decode chunk }

def offerAll (parser : BodyParser) (chunks : List Bytes) : BodyParser :=
  chunks.foldl offer parser

/-- The decoded body; it is empty when the limit was exceeded or the parser was
released. -/
def finish (parser : BodyParser) : Body × BodyParser :=
  if parser.exceeded || parser.released then (.empty, parser)
  else (parser.decoder.finish.1,
    { parser with decoder := parser.decoder.finish.2 })

def describe (parser : BodyParser) : String :=
  let limit :=
    match parser.maxSize with
    | none => "None"
    | some limit => "Some(" ++ toString limit ++ ")"
  "BodyParser \x7b max_size: " ++ limit ++ ", seen: " ++ toString parser.seen ++
    ", exceeded: " ++ toString parser.exceeded ++ " \x7d"

end BodyParser

/-! ## Choosing a parser -/

/-- Limits in bytes, `none` standing for no limit. -/
structure BodyLimits where
  request : Option Nat
  multipart : Option Nat
  deriving DecidableEq, Repr

def BodyLimits.standard : BodyLimits :=
  ⟨some (10 * 1024 * 1024), some (50 * 1024 * 1024)⟩

namespace BodyParser

/-- The parser that the content type asks for. -/
def ofContentType (contentType : Option String) (limits : BodyLimits) :
    BodyParser :=
  match contentType.bind MediaType.parse? with
  | none => raw limits.request
  | some media =>
      if media.isFormData then
        multipart limits.multipart (media.parameter? "boundary")
      else if media.isUrlEncoded then urlEncoded limits.request
      else raw limits.request

/-- Only methods that carry a body have it decoded.  A parser of the route wins
over the content type. -/
def select (method : Method) (contentType : Option String)
    (factory : Option BodyParser) (limits : BodyLimits) : BodyParser :=
  if !method.carriesBody then empty
  else
    match factory with
    | some parser => parser
    | none => ofContentType contentType limits

end BodyParser

end HttpEngine
