import ModelineAssist.Uri.Basic

/-!
Reading identifiers into their normal form. The schemes of the web and `file` are special: they need
a host, or none at all, and a backslash is as good as a slash. An identifier without a scheme is
refused.
-/
namespace ModelineAssist.Uri

/-- The number of the service that a scheme means unless another one is given. -/
def usualService? (scheme : List Char) : Option Nat :=
  (([("http", 80), ("https", 443), ("ws", 80), ("wss", 443), ("ftp", 21)].find?
    (·.1.toList = scheme))).map (·.2)

/-- Whether a scheme is one of the web. -/
def isOfWeb (scheme : List Char) : Bool := (usualService? scheme).isSome

/-- Whether a character separates segments. -/
def isSlash (special : Bool) (c : Char) : Bool := c == '/' || (special && c == '\\')

/-- A text without blanks around it, and without tabs and line ends. -/
def cleaned (text : List Char) : List Char :=
  let isBlank := fun c : Char => c.toNat ≤ 0x20
  let text := ((text.dropWhile isBlank).reverse.dropWhile isBlank).reverse
  text.filter fun c => c ≠ '\t' ∧ c ≠ '\n' ∧ c ≠ '\r'

/-- The scheme in small letters, and what follows its colon. -/
def scheme? (text : List Char) : Option (List Char × List Char) :=
  let isOfScheme := fun c : Char => c.isAlphanum || ['+', '-', '.'].contains c
  match text.takeWhile isOfScheme, text.dropWhile isOfScheme with
  | c :: cs, ':' :: rest => if c.isAlpha then some ((c :: cs).map Char.toLower, rest) else none
  | _, _ => none

/-! ### Paths -/

/-- A text with the escape of a dot resolved. -/
def plainDots : List Char → List Char
  | '%' :: '2' :: e :: cs =>
    if e = 'e' ∨ e = 'E' then '.' :: plainDots cs else '%' :: plainDots ('2' :: e :: cs)
  | c :: cs => c :: plainDots cs
  | [] => []

/-- Whether a segment leads up. -/
def leadsUp (segment : List Char) : Bool := plainDots segment == ['.', '.']

/-- Whether a segment leads nowhere. -/
def leadsNowhere (segment : List Char) : Bool := plainDots segment == ['.']

/-- The letter of a drive, if a segment names one. -/
def driveLetter? : List Char → Option Char
  | [letter, mark] => if letter.isAlpha && (mark == ':' || mark == '|') then some letter else none
  | _ => none

/-- The segments so far, innermost first, without the last one; that of a drive stays. -/
def withoutLast : List (List Char) → List (List Char)
  | [] => []
  | s :: before => if (driveLetter? s).isSome then s :: before else before

/-- A segment as it is kept. In the path to a file the letter of a drive in front is marked by a
colon. -/
def kept (ofFile : Bool) (before : List (List Char)) (segment : List Char) : List Char :=
  match driveLetter? segment with
  | some letter => if ofFile && before.isEmpty then [letter, ':'] else escape escapedInPath segment
  | none => escape escapedInPath segment

/-- The segments of a path, dots resolved and the rest escaped, behind those already there, of which
the innermost is first. -/
def resolve (ofFile : Bool) : List (List Char) → List (List Char) → List (List Char)
  | before, [] => before.reverse
  | before, [last] =>
    if leadsUp last then ([] :: withoutLast before).reverse
    else if leadsNowhere last then ([] :: before).reverse
    else (kept ofFile before last :: before).reverse
  | before, segment :: segments =>
    if leadsUp segment then resolve ofFile (withoutLast before) segments
    else if leadsNowhere segment then resolve ofFile before segments
    else resolve ofFile (kept ofFile before segment :: before) segments

/-- The segments of a path given without its first slash. -/
def segments (special : Bool) (text : List Char) : List (List Char) :=
  resolve false [] (text.splitOnP (isSlash special))

/-- The segments of a path to a file given without its first slash, and whether they start at a
drive. Empty segments at the front do not count. -/
def fileSegments (text : List Char) : List (List Char) × Bool :=
  let all := resolve true [] (text.splitOnP (isSlash true))
  let onDrive := (all.head?.bind driveLetter?).isSome
  match all.dropWhile (·.isEmpty) with
  | [] => ([[]], onDrive)
  | s :: ss => (s :: ss, onDrive)

/-! ### Authorities -/

/-- What stands before the last `@`, if there is one, and what behind it. -/
def atUser (text : List Char) : Option (List Char) × List Char :=
  match text.reverse.dropWhile (· ≠ '@') with
  | [] => (none, text)
  | _ :: before => (some before.reverse, (text.reverse.takeWhile (· ≠ '@')).reverse)

/-- A host, up to a colon that stands in no brackets, and what follows it. -/
def splitHost : Bool → List Char → List Char × List Char
  | _, [] => ([], [])
  | inside, c :: cs =>
    if c = ':' ∧ !inside then ([], c :: cs)
    else
      let inside := if c = '[' then true else if c = ']' then false else inside
      let (host, rest) := splitHost inside cs
      (c :: host, rest)

/-- The number of a service; `none` within if it is missing or the usual one. -/
def service? (scheme : List Char) (digits : List Char) : Option (Option Nat) :=
  if !digits.all Char.isDigit then none
  else
    let n := ofDigits 10 digits
    if 0xFFFF < n then none
    else if digits = [] ∨ usualService? scheme = some n then some none
    else some (some n)

/-- An authority. Without a host there is neither a user nor a service. -/
def authority? (scheme : List Char) (text : List Char) : Option Authority := do
  let (userPart, rest) := atUser text
  let userText := userPart.getD []
  let user := escape escapedInUser (userText.takeWhile (· ≠ ':'))
  let password := escape escapedInUser ((userText.dropWhile (· ≠ ':')).drop 1)
  let (hostText, serviceText) := splitHost false rest
  if hostText = [] then
    if isOfWeb scheme || serviceText ≠ [] || userPart = some [] || user ≠ [] || password ≠ [] then
      none
    else some ⟨[], [], none, none⟩
  else
    let host ← if isOfWeb scheme then webHost? hostText else plainHost? hostText
    let service ← service? scheme (serviceText.drop 1)
    some ⟨user, password, some host, service⟩

/-! ### Identifiers -/

/-- Authority and path of an identifier of a file, from what stands between the scheme and the
query. -/
def file? (text : List Char) : Option (Authority × List (List Char)) :=
  let withHost := fun host : Option Host => (⟨[], [], host, none⟩ : Authority)
  match text with
  | first :: second :: rest =>
    if isSlash true first && isSlash true second then
      let host := rest.takeWhile (!isSlash true ·)
      let path := rest.drop host.length
      if (driveLetter? host).isSome then some (withHost none, (fileSegments rest).1)
      else if host = [] then some (withHost none, (fileSegments path).1)
      else
        (webHost? host).map fun host =>
          if host = .name "localhost".toList then (withHost none, (fileSegments path).1)
          else
            let (segments, onDrive) := fileSegments (path.drop 1)
            (withHost (if onDrive then none else some host), segments)
    else some (withHost none, (fileSegments (dropSlash (first :: second :: rest))).1)
  | text => some (withHost none, (fileSegments (dropSlash text)).1)
where
  /-- A text without the slash in front of it. -/
  dropSlash : List Char → List Char
    | c :: cs => if isSlash true c then cs else c :: cs
    | [] => []

/-- Authority and path, from what stands between the scheme and the query. -/
def hierarchy? (scheme : List Char) (text : List Char) : Option (Option Authority × Path) :=
  let withAuthority := fun rest : List Char =>
    let special := isOfWeb scheme
    let text := rest.takeWhile (!isSlash special ·)
    let path := rest.drop text.length
    (authority? scheme text).map fun a =>
      if path = [] ∧ !special then (some a, Path.rooted [])
      else (some a, Path.rooted (segments special (path.drop 1)))
  if scheme = "file".toList then
    (file? text).map fun (a, segments) => (some a, .rooted segments)
  else if isOfWeb scheme then withAuthority (text.dropWhile (isSlash true))
  else match text with
    | '/' :: '/' :: rest => withAuthority rest
    | '/' :: rest => some (none, .rooted (segments false rest))
    | rest => some (none, .rootless (escape isControl rest))

/-- The identifier that a text writes. -/
def parse? (text : List Char) : Option Uri := do
  let (scheme, rest) ← scheme? (cleaned text)
  let special := scheme = "file".toList || isOfWeb scheme
  let beforeFragment := rest.takeWhile (· ≠ '#')
  let fragment := (rest.drop beforeFragment.length).drop 1
  let beforeQuery := beforeFragment.takeWhile (· ≠ '?')
  let query := (beforeFragment.drop beforeQuery.length).drop 1
  let (authority, path) ← hierarchy? scheme beforeQuery
  some
    { scheme, authority, path
      query := if beforeQuery.length < beforeFragment.length then
          some (escape (escapedInQuery special) query)
        else none
      fragment := if beforeFragment.length < rest.length then
          some (escape escapedInFragment fragment)
        else none }

end ModelineAssist.Uri
