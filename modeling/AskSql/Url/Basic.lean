import AskSql.Url.Address
import AskSql.Url.Percent

/-!
# Addresses of requests

A URL in its parts, each of them in the one form in which it is written.
-/

namespace AskSql

open Text

namespace Url

/-- What a URL leads to. -/
inductive Host where
  /-- A name, in the form in which it is looked up. -/
  | name (text : Text)
  /-- A number of 32 bits. -/
  | dotted (address : Nat)
  /-- Eight numbers of 16 bits. -/
  | colons (address : List Nat)
  deriving Repr, DecidableEq

/-- A host as it is written. -/
def Host.text : Host → Text
  | .name text => text
  | .dotted address => dottedText address
  | .colons address => '[' :: colonText address ++ [']']

/-- The part of a URL that comes after `//`. -/
structure Authority where
  /-- Who asks, percent-encoded. -/
  user : Text := []
  /-- The password, percent-encoded. It is not empty. -/
  password : Option Text := none
  /-- The host, unless nothing is written there. -/
  host : Option Host := none
  /-- The port, unless it is the scheme's own. -/
  port : Option Nat := none
  deriving Repr, DecidableEq

namespace Authority

/-- Name and password as they are written. -/
def credentials (a : Authority) : Text :=
  a.user ++
    match a.password with
    | some password => ':' :: password
    | none => []

/-- An authority as it is written. -/
def text (a : Authority) : Text :=
  (if a.credentials.isEmpty then [] else a.credentials ++ ['@']) ++
    (match a.host with
      | some host => host.text
      | none => []) ++
    match a.port with
    | some port => ':' :: ofNat port
    | none => []

/-- Name or password can be used: they are text. -/
def hasReadableCredentials (a : Authority) : Bool :=
  let isReadable := fun s => (ofUtf8 0 (percentDecoded s)).isOk
  isReadable a.user && (!a.user.isEmpty || a.password.any isReadable)

end Authority
end Url

/-- An absolute URL. -/
structure Url where
  /-- The scheme, without its colon. -/
  scheme : Text
  /-- What comes after `//`, if that is written. -/
  authority : Option Url.Authority
  /-- The path, percent-encoded. -/
  path : Text
  /-- The query, percent-encoded. -/
  query : Option Text
  /-- The fragment, percent-encoded. -/
  fragment : Option Text
  deriving Repr, DecidableEq

namespace Url

/-- The host. -/
def host? (u : Url) : Option Host :=
  u.authority.bind (·.host)

/-- The URL as it is written. A path that begins with `//` does not pass for an authority. -/
def text (u : Url) : Text :=
  u.scheme ++ ':' ::
    (match u.authority with
      | some a => '/' :: '/' :: a.text
      | none => if "//".toList.isPrefixOf u.path then ['/', '.'] else []) ++
    u.path ++
    (match u.query with
      | some query => '?' :: query
      | none => []) ++
    match u.fragment with
    | some fragment => '#' :: fragment
    | none => []

/-- The URL without name and password, if they can be used: they are sent beside it then. -/
def withoutCredentials (u : Url) : Url :=
  { u with
    authority := u.authority.map fun a =>
      if a.hasReadableCredentials then { a with user := [], password := none } else a }

/-- A request can be sent to the host: it holds only what may stand in front of a path. -/
def isReachable (u : Url) : Bool :=
  match u.host? with
  | some host => !host.text.any fun c => ['"', '\x60', '\x7b', '\x7d'].contains c
  | none => false

end Url
end AskSql
