import ModelineAssist.Uri.Host

/-!
Identifiers of documents and workspaces, in their normal form: the parts are escaped, dots in the
path are resolved, and what goes without saying is left out. So two identifiers name the same
document if and only if they are equal.
-/
namespace ModelineAssist

namespace Uri

/-- Who serves a document: a user with a password, a host and the number of a service on it, each of
which may be missing. -/
structure Authority where
  user : List Char
  password : List Char
  host : Option Host
  service : Option Nat
  deriving DecidableEq, Repr

/-- The path of an identifier. -/
inductive Path
  /-- Segments from a root on. -/
  | rooted (segments : List (List Char))
  /-- A text without parts, as in `untitled:Untitled-1`. -/
  | rootless (text : List Char)
  deriving DecidableEq, Repr

end Uri

/-- An identifier. -/
structure Uri where
  scheme : List Char
  authority : Option Uri.Authority
  path : Uri.Path
  query : Option (List Char)
  fragment : Option (List Char)
  deriving DecidableEq, Repr

namespace Uri

/-- How an authority is written. -/
def Authority.text (a : Authority) : List Char :=
  let user :=
    if a.user = [] ∧ a.password = [] then []
    else a.user ++ (if a.password = [] then [] else ':' :: a.password) ++ ['@']
  user ++ (a.host.map Host.text).getD [] ++
    (a.service.map fun n => ':' :: Nat.toDigits 10 n).getD []

/-- How a path is written. -/
def Path.text : Path → List Char
  | .rooted segments => segments.flatMap ('/' :: ·)
  | .rootless text => text

/-- What stands between the scheme and the path. A path whose first segment is empty must not be
taken for an authority. -/
def beforePath : Option Authority → Path → List Char
  | some a, _ => "//".toList ++ a.text
  | none, .rooted ([] :: _ :: _) => "/.".toList
  | none, _ => []

/-- How an identifier is written. -/
def text (u : Uri) : List Char :=
  u.scheme ++ ':' :: beforePath u.authority u.path ++ u.path.text ++
    (u.query.map ('?' :: ·)).getD [] ++ (u.fragment.map ('#' :: ·)).getD []

/-- The path in the file system that an identifier names, as bytes. The scheme does not matter, but
the path needs a root, and the host has to be the local one. A path that ends in the letter of a
drive gets a slash behind it. -/
def filePath? (u : Uri) : Option (List UInt8) :=
  match u.path with
  | .rooted (segment :: segments) =>
    match u.authority.bind (·.host) with
    | none => some (bytesOf (segment :: segments))
    | some (.name name) =>
      if name = "localhost".toList then some (bytesOf (segment :: segments)) else none
    | some _ => none
  | _ => none
where
  /-- The bytes of a path. -/
  bytesOf (segments : List (List Char)) : List UInt8 :=
    let bytes := segments.flatMap fun s => 0x2F :: unescape s
    match bytes.reverse with
    | last :: letter :: _ :: _ =>
      if (last = 0x3A ∨ last = 0x7C) ∧ (Char.ofNat letter.toNat).isAlpha then bytes ++ [0x2F]
      else bytes
    | _ => bytes

end Uri

end ModelineAssist
