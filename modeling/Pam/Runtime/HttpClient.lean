import Pam.Foundation.Failure
import Pam.Protocol.StreamHead

namespace Pam.Runtime

open Pam.Foundation Pam.Protocol

/-! `Pam\Http\Client`: the redirect loop, the resolution of locations and the
head of its requests. The network is an argument, and so are the functions of
PHP that take URLs apart. -/

structure UrlParts where
  scheme : Option PhpString
  host : Option PhpString
  port : Option Nat
  user : Option PhpString
  pass : Option PhpString
  path : Option PhpString
  query : Option PhpString

structure UrlFunctions where
  parseUrl : PhpString → Option UrlParts
  isHost : PhpString → Bool

inductive ClientError where
  | invalidArgument (message : String)
  | runtime (message : String)
  | typeError
  | network

structure ClientResponse where
  status : Nat
  headers : Table PhpString (List PhpString)
  body : PhpString

def ClientResponse.header (response : ClientResponse) (name : PhpString) : Option PhpString :=
  match (response.headers.lookup (strtolower name)).getD [] with
  | [] => none
  | values => some ([0x2C, 0x20].intercalate values)

structure Client where
  maxRedirects : Nat
  userAgent : PhpString

structure ClientCall where
  method : PhpString
  url : PhpString
  headers : Table PhpString PhpValue
  body : PhpString
  redirects : Nat

/-- What the network makes of one `send`: no connection, a request whose answer
does not come through, or an answer. -/
inductive Reply where
  | unconnected
  | broken
  | answered (response : ClientResponse)

structure Endpoint where
  tls : Bool
  host : PhpString
  port : Nat
  target : PhpString

structure Origin where
  tls : Bool
  host : PhpString
  port : Nat
  deriving DecidableEq

def Endpoint.origin (endpoint : Endpoint) : Origin where
  tls := endpoint.tls
  host := strtolower endpoint.host
  port := endpoint.port

def httpScheme : PhpString := asciiBytes "http"

def httpsScheme : PhpString := asciiBytes "https"

def peerName (host : PhpString) : PhpString :=
  if host.head? == some 0x5B && host.getLast? == some 0x5D then (host.drop 1).dropLast else host

def requestTarget (parts : UrlParts) : PhpString :=
  let path := match parts.path.getD [] with
    | [] => [0x2F]
    | path => path
  match parts.query.getD [] with
  | [] => path
  | query => path ++ 0x3F :: query

/-- `send` before it connects. -/
def UrlFunctions.endpoint (urls : UrlFunctions) (url : PhpString) : Except ClientError Endpoint :=
  match urls.parseUrl url with
  | none => .error (.invalidArgument "HTTP URL is invalid.")
  | some parts =>
    let scheme := strtolower (parts.scheme.getD [])
    let host := parts.host.getD []
    if (scheme != httpScheme && scheme != httpsScheme) || host.isEmpty ||
        parts.user.isSome || parts.pass.isSome then
      .error (.invalidArgument "Only valid http and https URLs are supported.")
    else if !urls.isHost (peerName host) then .error (.invalidArgument "HTTP URL host is invalid.")
    else
      let tls := scheme == httpsScheme
      let target := requestTarget parts
      if target.any fun byte => byte ≤ 0x20 || byte == 0x7F then
        .error (.invalidArgument "HTTP request target contains invalid control characters.")
      else
        .ok {
          tls := tls
          host := host
          port := parts.port.getD (if tls then 443 else 80)
          target := target }

def headerValues : PhpValue → List PhpValue
  | .array entries => entries.map Prod.snd
  | value => [value]

def appendHeader (name : PhpString) (result : Table PhpString (List PhpString)) :
    PhpValue → Except ClientError (Table PhpString (List PhpString))
  | .string text =>
    if text.contains 0x0D || text.contains 0x0A then
      .error (.invalidArgument "HTTP header value is invalid.")
    else .ok (result.assign name ((result.lookup name).getD [] ++ [text]))
  | _ => .error (.invalidArgument "HTTP header value is invalid.")

def normalizeHeader (result : Table PhpString (List PhpString))
    (entry : (_ : PhpString) × PhpValue) : Except ClientError (Table PhpString (List PhpString)) :=
  let name := strtolower entry.1
  if isIntegerKey entry.1 then .error (.invalidArgument "HTTP header names must be strings.")
  else if name.isEmpty || !name.all isHeaderByte then
    .error (.invalidArgument "HTTP header name is invalid.")
  else (headerValues entry.2).foldlM (appendHeader name) result

def normalizeHeaders (headers : Table PhpString PhpValue) :
    Except ClientError (Table PhpString (List PhpString)) :=
  headers.entries.foldlM normalizeHeader ∅

def setDefault (name value : PhpString) (headers : Table PhpString (List PhpString)) :
    Table PhpString (List PhpString) :=
  if (headers.lookup name).isSome then headers else headers.assign name [value]

def hostName : PhpString := asciiBytes "host"

def connectionName : PhpString := asciiBytes "connection"

def acceptEncodingName : PhpString := asciiBytes "accept-encoding"

def userAgentName : PhpString := asciiBytes "user-agent"

def contentLengthName : PhpString := asciiBytes "content-length"

def ownNames : List PhpString :=
  [hostName, connectionName, acceptEncodingName, userAgentName, contentLengthName]

def hostHeader (endpoint : Endpoint) : PhpString :=
  if endpoint.port == (if endpoint.tls then 443 else 80) then endpoint.host
  else endpoint.host ++ 0x3A :: decimal endpoint.port

def Client.requestHeaders (client : Client) (endpoint : Endpoint)
    (body : PhpString) (normalized : Table PhpString (List PhpString)) :
    Table PhpString (List PhpString) :=
  let headers := setDefault userAgentName client.userAgent
    (setDefault acceptEncodingName (asciiBytes "identity")
      ((setDefault hostName (hostHeader endpoint) normalized).assign
        connectionName [asciiBytes "close"]))
  if body.isEmpty then headers else headers.assign contentLengthName [decimal body.length]

def headerLines (headers : Table PhpString (List PhpString)) : List (PhpString × PhpString) :=
  headers.entries.flatMap fun entry => entry.2.map fun value => (entry.1, value)

structure SentRequest where
  url : PhpString
  endpoint : Endpoint
  method : PhpString
  lines : List (PhpString × PhpString)
  body : PhpString

def Client.write (client : Client) (call : ClientCall) (endpoint : Endpoint) :
    Except ClientError SentRequest := do
  let normalized ← normalizeHeaders call.headers
  return {
    url := call.url
    endpoint := endpoint
    method := call.method
    lines := headerLines (client.requestHeaders endpoint call.body normalized)
    body := call.body }

def directory (path : PhpString) : PhpString := if path.contains 0x2F then
    (path.reverse.dropWhile (· != 0x2F)).reverse
  else [0x2F]

def UrlFunctions.resolveUrl (urls : UrlFunctions)
    (base location : PhpString) : Except ClientError PhpString :=
  -- A location that does not parse has the scheme `false`, which is not `null`.
  if (urls.parseUrl location).all fun parts => parts.scheme.isSome then .ok location
  else
    let base := urls.parseUrl base
    match base.bind UrlParts.scheme, base.bind UrlParts.host with
    | some scheme, some host =>
      let port := base.bind UrlParts.port
      let authority := scheme ++ [0x3A, 0x2F, 0x2F] ++ host ++
        (port.map fun port => 0x3A :: decimal port).getD []
      if [0x2F, 0x2F].isPrefixOf location then .ok (scheme ++ 0x3A :: location)
      else if [0x2F].isPrefixOf location then .ok (authority ++ location)
      else
        let path := (base.bind UrlParts.path).getD []
        .ok (authority ++ directory path ++ location)
    | _, _ => .error (.runtime "Cannot resolve relative redirect URL.")

def UrlFunctions.host (urls : UrlFunctions) (url : PhpString) : Option (Option PhpString) :=
  (urls.parseUrl url).map UrlParts.host

def authorizationName : PhpString := asciiBytes "authorization"

def locationName : PhpString := asciiBytes "location"

def redirectStatuses : List Nat := [301, 302, 303, 307, 308]

def getMethod : PhpString := asciiBytes "GET"

def postMethod : PhpString := asciiBytes "POST"

/-- The headers of the next round: where the host changes, every spelling of
`authorization` is removed. -/
def UrlFunctions.nextHeaders (urls : UrlFunctions) (call : ClientCall)
    (nextUrl : PhpString) : Except ClientError (Table PhpString PhpValue) :=
  if urls.host call.url != urls.host nextUrl then
    if call.headers.keys.any isIntegerKey then .error .typeError
    else
      .ok (call.headers.retain fun name _ => strtolower name != authorizationName)
  else .ok call.headers

/-- The rest of the loop body after `send`: `none` where the response is
returned, otherwise the variables of the next round. -/
def Client.redirect (client : Client) (urls : UrlFunctions)
    (call : ClientCall) (response : ClientResponse) : Except ClientError (Option ClientCall) :=
  match response.header locationName with
  | none => .ok none
  | some location =>
    if !redirectStatuses.contains response.status || call.redirects ≥ client.maxRedirects then
      .ok none
    else do
      let nextUrl ← urls.resolveUrl call.url location
      let headers ← urls.nextHeaders call nextUrl
      let toGet := response.status == 303 || (call.method == postMethod &&
          (response.status == 301 || response.status == 302))
      return some {
        method := if toGet then getMethod else call.method
        url := nextUrl
        headers := headers
        body := if toGet then [] else call.body
        redirects := call.redirects + 1 }

inductive ClientOutcome where
  | returned (response : ClientResponse)
  | threw (error : ClientError)
  | waiting

/-- The loop of `request` against the replies of the network: the requests that
are written, and how the call ends. -/
def Client.run (client : Client) (urls : UrlFunctions) (call : ClientCall) :
    List Reply → List SentRequest × ClientOutcome
  | [] => ([], .waiting)
  | reply :: replies =>
    match urls.endpoint call.url with
    | .error error => ([], .threw error)
    | .ok endpoint =>
      match reply with
      | .unconnected => ([], .threw .network)
      | .broken =>
        match client.write call endpoint with
        | .error error => ([], .threw error)
        | .ok sent => ([sent], .threw .network)
      | .answered response =>
        match client.write call endpoint with
        | .error error => ([], .threw error)
        | .ok sent =>
          match client.redirect urls call response with
          | .error error => ([sent], .threw error)
          | .ok none => ([sent], .returned response)
          | .ok (some next) =>
            (sent :: (client.run urls next replies).1, (client.run urls next replies).2)

def Client.request (client : Client) (urls : UrlFunctions)
    (method url : PhpString) (headers : Table PhpString PhpValue)
    (body : PhpString) (replies : List Reply) : List SentRequest × ClientOutcome :=
  let method := strtoupper method
  if method.isEmpty || !method.all isMethodByte then
    ([], .threw (.invalidArgument "HTTP method is invalid."))
  else client.run urls ⟨method, url, headers, body, 0⟩ replies

end Pam.Runtime
