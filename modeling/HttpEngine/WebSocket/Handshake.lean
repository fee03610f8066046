import HttpEngine.Response
import HttpEngine.WebSocket.Digest

/-!
# The opening handshake

A request for an upgrade lists `websocket` and `upgrade` in the fields that say
so, brings a key and asks for version 13.  The answer proves that the key was
read.
-/

namespace HttpEngine.WebSocket

/-- What is hashed after the key. -/
def keySuffix : String := "258EAFA5-E914-47DA-95CA-C5AB0DC85B11"

def acceptKey (key : Bytes) : String :=
  base64 (sha1 (key ++ Utf8.ofString keySuffix))

def rejection (reason : String) : Response :=
  Response.badRequest.text (Utf8.ofString reason)

/-- Asks for the version that is spoken here. -/
def wrongVersion : Response :=
  { Response.upgradeRequired with
    headers :=
      HeaderMap.empty.insert "sec-websocket-version" (Utf8.ofString "13") }

/-- The accept key for a request head, or the response that refuses it. -/
def handshake (headers : HeaderMap) : Except Response String :=
  if !headers.hasToken "upgrade" "websocket" ||
    !headers.hasToken "connection" "upgrade" then
    .error (rejection "not a websocket upgrade request")
  else
    match headers.get? "sec-websocket-key" with
    | none => .error (rejection "missing Sec-WebSocket-Key")
    | some key =>
        if headers.get? "sec-websocket-version" = some (Utf8.ofString "13") then
          .ok (acceptKey key)
        else .error wrongVersion

/-- The fields of the answer that switches protocols. -/
def switchingHeaders (accept : String) : HeaderMap :=
  ((HeaderMap.empty.insert "upgrade" (Utf8.ofString "websocket")).insert
    "connection"
    (Utf8.ofString "Upgrade")).insert "sec-websocket-accept"
      (Utf8.ofString accept)

end HttpEngine.WebSocket
