import ModelineAssist.Modeline.Marker
import ModelineAssist.Modeline.Token

/-!
What a cursor points at in a modeline. While an option name is being typed, it is the stretch of
solid characters around the cursor, as long as that holds no `=`. For reading, it is the name part
of the token under the cursor. Both are `none` outside modelines and left of the end of the marker.
-/
namespace ModelineAssist.Modeline
open Text

/-- An option name that is being typed. -/
structure TypedName where
  /-- What stands left of the cursor; it may be empty. -/
  text : List Char
  /-- The column at which the stretch around the cursor starts. -/
  start : Nat
  /-- The column at which it stops, at the cursor or right of it. -/
  stop : Nat
  deriving DecidableEq, Repr

/-- An option name as it stands in a modeline. -/
structure NameSpan where
  name : List Char
  start : Nat
  stop : Nat
  deriving DecidableEq, Repr

/-- The solid characters at the end of a text. -/
def solidEnd (text : List Char) : List Char := (text.reverse.takeWhile isSolid).reverse

/-- The option name being typed at a column. -/
def typedNameAt (line : List Char) (column : Nat) : Option TypedName :=
  match markerLength? line with
  | none => none
  | some marker =>
    let left := leftOf column line
    if left.length < marker then none
    else
      let before := solidEnd (left.drop marker)
      let after := (rightOf column line).takeWhile isSolid
      if before.contains '=' || after.contains '=' then none
      else
        let cursor := columns left
        some ⟨before, cursor - columns before, cursor + columns after⟩

/-- The option name that a column lies on or just behind. -/
def nameAt (line : List Char) (column : Nat) : Option NameSpan :=
  match markerLength? line with
  | none => none
  | some marker =>
    let left := leftOf column line
    if left.length < marker then none
    else
      let cursor := columns left
      match (tokens (columns (line.take marker)) (line.drop marker)).find? (·.touches cursor) with
      | none => none
      | some token =>
        if token.name = [] || token.nameStop < cursor then none
        else some ⟨token.name, token.start, token.nameStop⟩

end ModelineAssist.Modeline
