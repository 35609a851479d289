import NodeTrial.Operation.Wire
import NodeTrial.Url.Parser
import NodeTrial.WriteServer.MediaType

/-! A stand-in for the write endpoints of the database service. Each endpoint takes a body of its
own kind and answers with a fixed reply; nothing is stored. The endpoints are tried in turn,
each refuses a request for a reason of its own, and from all the reasons together one error
reply is made.
-/

namespace NodeTrial.WriteServer

/-- A request as a client makes it up: its target, the headers that are set one after the other, and
the bytes of its body.
-/
structure Request where
  method : String
  target : String
  headers : List (String × String)
  body : List UInt8
  deriving DecidableEq, Repr

/-- A reply: its status and the JSON of its body. -/
structure Reply where
  status : Nat
  body : Json
  deriving DecidableEq

/-- Why an endpoint refuses a request. -/
inductive Rejection where
  | notFound
  | methodNotAllowed
  | lengthRequired
  | payloadTooLarge
  | unsupportedMediaType
  | badBody (error : ReadError)
  deriving DecidableEq, Repr

/-- The greatest length of a body, in bytes. -/
def bodyLimit : Nat := 16384

namespace Request

/-- The name of a header in lower case. -/
def headerKey (name : String) : String :=
  String.ofList (name.toList.map Char.toLower)

/-- The headers that a request is sent with: one value for each name, whose case does not matter. A
header that is set again is replaced.
-/
def headerMap (r : Request) : Table String :=
  .ofList (r.headers.map fun (name, value) => (headerKey name, value))

/-- The value of a header; its name is given in lower case. -/
def header? (r : Request) (name : String) : Option String :=
  r.headerMap.get? name

/-- What follows the scheme and the authority of a target, if it has them. -/
def afterAuthority? (target : List Char) : Option (List Char) :=
  match target.dropWhile Url.inScheme with
  | ':' :: '/' :: '/' :: rest => some (rest.dropWhile fun c => !(['/', '?', '#'].contains c))
  | _ => none

/-- The path of the target, up to a query or a fragment. A target that neither starts with a
slash nor names a scheme has none.
-/
def path (r : Request) : List Char :=
  let target := r.target.toList
  let local? := if target.head? = some '/' then some target else afterAuthority? target
  (local?.getD []).takeWhile fun c => c != '?' && c != '#'

end Request

/-- A header's value is a text if all its characters are visible, spaces or tabs. -/
def isHeaderText (value : String) : Bool :=
  value.toList.all fun c => (' ' ≤ c && c ≤ '~') || c = '\t'

/-- The length that a header gives for the body. -/
def declaredLength? (r : Request) : Option UInt64 :=
  (r.header? "content-length").bind Text.word?

/-- A request's media type is that of JSON; without the header it is taken to be. -/
def hasJsonType (r : Request) : Bool :=
  match r.header? "content-type" with
  | none => true
  | some value => isHeaderText value && isJsonMediaType value

/-- The path selects an endpoint: its name alone, with or without a slash at the end. -/
def selects (path : List Char) (kind : OperationKind) : Bool :=
  path = '/' :: kind.path.toList || path = '/' :: kind.path.toList ++ ['/']

/-- The fixed reply of an endpoint. -/
def successReply : OperationKind → Reply
  | .set => ⟨201, .object [("code", .number (.whole (.ofWord 0)))]⟩
  | .update =>
    ⟨201, .object [("code", .number (.whole (.ofWord 0))), ("result", .text "result")]⟩
  | .batch => ⟨200, .list []⟩
  | .increase =>
    ⟨200, .object [("code", .number (.whole (.ofWord 0))), ("result", .text "something")]⟩

/-- What one endpoint does with a request: it checks the path, the method, the declared length,
the media type and the body, in this order.
-/
def attempt (r : Request) (kind : OperationKind) : Except Rejection Reply := do
  if !selects r.path kind then throw .notFound
  if r.method != "POST" then throw .methodNotAllowed
  match declaredLength? r with
  | none => throw .lengthRequired
  | some length => if bodyLimit < length.toNat then throw .payloadTooLarge
  if !hasJsonType r then throw .unsupportedMediaType
  match Operation.parseAs kind (Text.symbolsOfBytes r.body) with
  | .error error => throw (.badBody error)
  | .ok _ => return successReply kind

def errorReply (status : Nat) (message : String) : Reply :=
  ⟨status, .object [("code", .number (.whole (.ofWord 1))), ("message", .text message)]⟩

/-- The read error among rejections, if there is one. -/
def bodyError? (rejections : List Rejection) : Option ReadError :=
  rejections.findSome? fun
    | .badBody error => some error
    | _ => none

/-- The error reply that rejections make together. A request that no endpoint was found for is
one that all of them rejected for that reason; of the other reasons the first in a fixed order
counts, and one that has no reply of its own is the server's fault.
-/
def classify (rejections : List Rejection) : Reply :=
  if rejections.all (· = .notFound) then errorReply 404 "Not found"
  else
    match bodyError? rejections with
    | some error => errorReply 400 ("Request body deserialize error: " ++ error.message)
    | none =>
      if rejections.contains .payloadTooLarge then errorReply 413 "Payload too large"
      else if rejections.contains .unsupportedMediaType then
        errorReply 415 "Expected a JSON body"
      else if rejections.contains .methodNotAllowed then errorReply 405 "Method not allowed"
      else errorReply 500 "Unhandled rejection"

/-- The endpoints in the order in which they are tried. -/
def endpoints : List OperationKind :=
  [.set, .update, .batch, .increase]

/-- Tries endpoints in turn: the first one's reply, or the reasons of all. -/
def firstReply (r : Request) : List OperationKind → Except (List Rejection) Reply
  | [] => .error []
  | kind :: rest =>
    match attempt r kind with
    | .ok reply => .ok reply
    | .error rejection => (firstReply r rest).mapError (rejection :: ·)

def respond (r : Request) : Reply :=
  match firstReply r endpoints with
  | .ok reply => reply
  | .error rejections => classify rejections

end NodeTrial.WriteServer
